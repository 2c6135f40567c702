import QueryInk.Proofs.Token.Grammar
import QueryInk.Proofs.Token.Resume

/-!
# Blanks separate

To the rules, a blank after a lexeme is as good as the end of the line: no text that
a rule looks for holds one, so none of them reaches across (`prefix_of_solid`). Only
an open string goes on through blanks.
-/

namespace QueryInk

namespace Text
open Computability

/-- No text of the language holds a blank. -/
def Solid (L : Language Char) : Prop := ∀ w ∈ L, ∀ c ∈ w, isBlank c = false

theorem solid_run {p : Char → Bool} (h : ∀ c, p c = true → isBlank c = false) :
    Solid (oneOf p)∗ := by
  intro w mem c inside
  exact h c (mem_run.1 mem c inside)

/-- A text without blanks does not reach across one. -/
theorem prefix_of_solid {v t s : Text} (front : v <+: t ++ s)
    (solid : ∀ c ∈ v, isBlank c = false) (ends : Ends s) : v <+: t := by
  obtain ⟨rest, cut⟩ := front
  rcases List.append_eq_append_iff.1 cut with ⟨more, within, -⟩ | ⟨more, beyond, left⟩
  · exact ⟨more, within.symm⟩
  · cases more with
    | nil => simp [beyond]
    | cons c more =>
      -- the text would hold the blank that comes next
      have blank := ends c (by simp [left])
      have nonblank := solid c (by simp [beyond])
      rw [nonblank] at blank
      contradiction

theorem Longest.append_ends {L : Language Char} {t w s : Text} (h : Longest L t w)
    (solid : Solid L) (ends : Ends s) : Longest L (t ++ s) w where
  front := h.front.trans (List.prefix_append t s)
  mem := h.mem
  longest := by
    intro v front mem
    apply h.longest v _ mem
    exact prefix_of_solid front (solid v mem) ends

theorem not_blank_of_name {c : Char} (h : isNameChar c = true) : isBlank c = false := by
  refine Bool.eq_false_iff.2 fun blank => ?_
  rw [isNameChar_of_isBlank blank] at h
  contradiction

theorem ends_of_blank {w : Text} (blank : Blank w) (some_blank : w ≠ []) (b : Text) :
    Ends (w ++ b) := by
  obtain ⟨c, more, rfl⟩ := List.exists_cons_of_ne_nil some_blank
  intro d first
  rw [List.cons_append, List.head?_cons, Option.mem_some_iff] at first
  subst first
  exact blank c List.mem_cons_self

end Text

namespace Decimal
open Computability Text

theorem solid_unsignedWords : Solid unsignedWords := by
  intro w mem c inside
  have unsigned : w ∈ literalWords := Language.mem_mul.2 ⟨[], .inl rfl, w, mem, rfl⟩
  obtain ⟨l, wf, rfl⟩ := mem_literalWords.1 unsigned
  have others : ['-', '.', 'e', 'E', '+'].all (fun c => isBlank c = false) = true := by decide
  rcases mem_text wf inside with digit | other
  · exact not_blank_of_name (isNameChar_of_isDigit digit)
  · exact List.all_iff_forall_prop.1 others c other

end Decimal

namespace Token
open Alphabet Computability Text Decimal

theorem solid_names : Solid nameWords := by
  rw [nameWords_eq]
  exact solid_run fun _ => not_blank_of_name

theorem solid_words : Solid bareWords := by
  rw [bareWords_eq]
  exact solid_run fun _ letter => not_blank_of_name (isNameChar_of_isWordChar letter)

theorem not_prefix_of_ends {t s : Text} (alone : ∀ op ∈ pairs, ¬ op <+: t) (ends : Ends s) :
    ∀ op ∈ pairs, ¬ op <+: t ++ s := by
  intro op listed front
  apply alone op listed
  apply prefix_of_solid front _ ends
  have solid : pairs.all (·.all fun c => isBlank c = false) = true := by decide
  intro c inside
  simpa using List.all_eq_true.1 (List.all_eq_true.1 solid op listed) c inside

theorem single_of_ends {t s : Text} (single : '$' ∉ t.head?) (ends : Ends s) :
    '$' ∉ (t ++ s).head? := by
  cases t with
  | nil =>
    intro double
    exact absurd (ends '$' double) (by decide)
  | cons c t => exact single

/-- A lexeme stays one when a blank and more is put after the text. An open string would take
that too. -/
theorem Lexeme.append_ends {r w s : Text} {kind : Kind} (h : Lexeme r kind w)
    (closed : kind ≠ .badString) (ends : Ends s) : Lexeme (r ++ s) kind w := by
  cases h with
  | pair listed =>
    rw [List.append_assoc]
    exact .pair listed
  | symbol listed alone => exact .symbol listed (not_prefix_of_ends alone ends)
  | @closed q body rest quote inside =>
    have longer : q :: (body ++ q :: rest) ++ s = q :: (body ++ q :: (rest ++ s)) := by simp
    rw [longer]
    exact .closed quote inside
  | unclosed quote inside => contradiction
  | number digit longest value small =>
    exact .number digit (longest.append_ends solid_unsignedWords ends) value small
  | badNumber digit longest value large =>
    exact .badNumber digit (longest.append_ends solid_unsignedWords ends) value large
  | root => exact .root
  | builtin single longest known =>
    exact .builtin (single_of_ends single ends) (longest.append_ends solid_names ends) known
  | var single longest unknown =>
    exact .var (single_of_ends single ends) (longest.append_ends solid_names ends) unknown
  | wordOperator letter longest listed =>
    exact .wordOperator letter (longest.append_ends solid_words ends) listed
  | keyword letter longest listed =>
    exact .keyword letter (longest.append_ends solid_words ends) listed
  | field letter longest unlisted =>
    exact .field letter (longest.append_ends solid_words ends) unlisted
  | stray solid noSymbol noQuote noDigit noSigil noLetter =>
    exact .stray solid noSymbol noQuote noDigit noSigil noLetter

/-- One step: the next lexeme is cut the same with a blank and more after the text. -/
theorem first_append_ends {c : Char} {t s : Text} (solid : isBlank c = false)
    (closed : (Cut.first c t).kind ≠ .badString) (ends : Ends s) :
    (Cut.first c (t ++ s)).kind = (Cut.first c t).kind ∧
      (Cut.first c (t ++ s)).taken = (Cut.first c t).taken ∧
      (Cut.first c (t ++ s)).rest = (Cut.first c t).rest ++ s := by
  have longer := (lexeme_first t solid).append_ends closed ends
  obtain ⟨kind, taken⟩ := first_of_lexeme longer List.cons_append
  refine ⟨kind, taken, ?_⟩
  have whole := Cut.first_append c (t ++ s)
  rw [taken, ← List.cons_append, ← Cut.first_append c t, List.append_assoc] at whole
  exact List.append_cancel_left whole

/-- The whole run: a line with no open string is read the same with a blank and more after it. -/
theorem streamFrom_append_ends {a s : Text} (offset : Nat)
    (closed : ∀ token ∈ streamFrom offset a, token.kind ≠ .badString) (ends : Ends s) :
    streamFrom offset (a ++ s) = streamFrom offset a ++ streamFrom (offset + width a) s := by
  induction a using lexemeInduction generalizing offset with
  | blank a blank => rw [streamFrom_skip blank, streamFrom_of_blank blank, List.nil_append]
  | lexeme gap c t blank solid ih =>
    have tokens := streamFrom_lexeme t blank solid offset
    rw [tokens, List.forall_mem_cons] at closed
    obtain ⟨closed_first, closed_later⟩ := closed
    obtain ⟨kind, taken, rest⟩ := first_append_ends solid closed_first ends
    have size : offset + width (gap ++ c :: t) = offset + width gap +
        width (Cut.first c t).taken + width (Cut.first c t).rest := by
      rw [← Cut.first_append, width_append, width_append]
      omega
    rw [tokens, List.append_assoc, List.cons_append, streamFrom_lexeme (t ++ s) blank solid,
      List.cons_append, Cut.token, kind, taken, rest, ih _ closed_later, size]
    rfl

/-- Blanks between two texts, the first without an open string, keep their tokens apart. -/
theorem stream_separated {a w : Text} (b : Text)
    (closed : ∀ token ∈ stream a, token.kind ≠ .badString) (blank : Blank w)
    (some_blank : w ≠ []) :
    stream (a ++ w ++ b) = stream a ++ (stream b).map (shift (width a + width w)) := by
  have ends := ends_of_blank blank some_blank b
  calc stream (a ++ w ++ b)
      = streamFrom 0 (a ++ (w ++ b)) := by rw [List.append_assoc, stream]
    _ = stream a ++ streamFrom (0 + width a) (w ++ b) := streamFrom_append_ends 0 closed ends
    _ = stream a ++ streamFrom (width a + width w + 0) b := by
      rw [streamFrom_skip blank, Nat.zero_add, Nat.add_zero]
    _ = stream a ++ (stream b).map (shift (width a + width w)) := by
      rw [streamFrom_shift, stream, stream]

/-- Without the wide blank the digit would complete the exponent. -/
theorem stream_separated_exponent :
    (∀ token ∈ stream "1e+".toList, token.kind ≠ .badString) ∧ Blank ['\u3000'] ∧
      stream ("1e+".toList ++ ['\u3000'] ++ "5".toList) =
        stream "1e+".toList ++ (stream "5".toList).map (shift 6) := by
  have closed : ∀ token ∈ stream "1e+".toList, token.kind ≠ .badString := by decide +kernel
  have blank : Blank ['\u3000'] := List.forall_mem_singleton.2 (by decide)
  exact ⟨closed, blank, stream_separated "5".toList closed blank (by simp)⟩

end Token

end QueryInk

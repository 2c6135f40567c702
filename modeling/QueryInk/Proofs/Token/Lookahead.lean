import QueryInk.Proofs.Token.Rules
import QueryInk.Proofs.Token.Tiling

/-!
# How far a rule looks ahead

A rule has to see what comes after a lexeme to know that it ends there. Most look
at one character; a literal may look at three, as in `1e+`, where only the next
character tells whether there is an exponent. So a lexeme with three bytes after it
is cut the same whatever is appended to the text (`first_lookahead`).
-/

namespace QueryInk

namespace Text

/-- A run that stops inside a text stops there whatever is appended. -/
theorem takeWhile_stopped {p : Char → Bool} {t : Text} (s : Text) (stops : t.dropWhile p ≠ []) :
    (t ++ s).takeWhile p = t.takeWhile p ∧ (t ++ s).dropWhile p = t.dropWhile p ++ s := by
  obtain ⟨c, rest, left⟩ := List.exists_cons_of_ne_nil stops
  have inside : ∀ d ∈ t.takeWhile p, p d = true := fun _ => List.mem_takeWhile_imp
  have stop : ∀ d ∈ (t.dropWhile p ++ s).head?, p d = false := by
    rw [left]
    rintro d ⟨⟩
    exact eq_false_of_dropWhile left
  have split : t ++ s = t.takeWhile p ++ (t.dropWhile p ++ s) := by
    rw [← List.append_assoc, List.takeWhile_append_dropWhile]
  constructor
  · rw [split, takeWhile_run inside stop]
  · rw [split, dropWhile_run inside stop]

theorem ne_nil_of_width {n : Nat} {t : Text} (h : n + 1 ≤ width t) : t ≠ [] := by
  rintro rfl
  simp at h

end Text

namespace Decimal
open Text

theorem digits_lookahead {t : Text} (s : Text) (more : afterDigits t ≠ []) :
    digits (t ++ s) = digits t ∧ afterDigits (t ++ s) = afterDigits t ++ s :=
  takeWhile_stopped s more

theorem afterDigits_eq_self {t : Text} (h : (digits t).isEmpty = true) : afterDigits t = t := by
  have whole := digits_append t
  rwa [List.isEmpty_iff.1 h] at whole

theorem readMinus_lookahead {t : Text} (s : Text) (more : t ≠ []) :
    readMinus (t ++ s) = ((readMinus t).1, (readMinus t).2 ++ s) := by
  cases t with
  | nil => contradiction
  | cons c t =>
    by_cases minus : c = '-'
    · subst minus
      rfl
    · simp [readMinus, minus]

theorem readWhole?_lookahead {t whole rest : Text} (s : Text)
    (h : readWhole? t = some (whole, rest)) (more : rest ≠ []) :
    readWhole? (t ++ s) = some (whole, rest ++ s) := by
  cases t with
  | nil => simp [readWhole?] at h
  | cons c t =>
    simp only [readWhole?, List.cons_append] at h ⊢
    split at h
    · next zero =>
      cases h
      rw [if_pos zero]
    · next nonzero =>
      split at h
      · next digit =>
        cases h
        obtain ⟨same, left⟩ := digits_lookahead s more
        rw [if_neg nonzero, if_pos digit, same, left]
      · cases h

/-- Of `.5` the point and the digit have to be seen. -/
theorem readFraction_lookahead (t s : Text) (more : 2 ≤ width (readFraction t).2) :
    readFraction (t ++ s) = ((readFraction t).1, (readFraction t).2 ++ s) := by
  cases t with
  | nil => simp [readFraction] at more
  | cons c t =>
    by_cases point : c = '.'
    · subst point
      simp only [readFraction, List.cons_append] at more ⊢
      by_cases none : (digits t).isEmpty = true
      · rw [if_pos none, width_cons, show '.'.utf8Size = 1 from rfl] at more
        have left : afterDigits t ≠ [] := by
          rw [afterDigits_eq_self none]
          exact ne_nil_of_width (n := 0) (by omega)
        rw [(digits_lookahead s left).1, if_pos none, if_pos none]
        rfl
      · rw [if_neg none] at more
        obtain ⟨same, left⟩ := digits_lookahead s (ne_nil_of_width more)
        rw [same, left, if_neg none, if_neg none]
    · simp [readFraction, point]

theorem readSign_lookahead {t : Text} (s : Text) (more : t ≠ []) :
    readSign (t ++ s) = ((readSign t).1, (readSign t).2 ++ s) := by
  cases t with
  | nil => contradiction
  | cons c t =>
    by_cases plus : c = '+'
    · subst plus
      rfl
    by_cases minus : c = '-'
    · subst minus
      rfl
    · simp [readSign, plus, minus]

theorem readSign_width (t : Text) : width t ≤ width (readSign t).2 + 1 := by
  have whole := congrArg width (readSign_append t)
  have small : width (readSign t).1.toList ≤ 1 := by
    cases sign : (readSign t).1 with
    | none => simp
    | some c => rcases readSign_mem t c sign with rfl | rfl <;> simp [Char.utf8Size]
  rw [width_append] at whole
  omega

/-- Of `e+5` the mark, the sign and the digit have to be seen. -/
theorem readExponent_lookahead (t s : Text) (more : 3 ≤ width (readExponent t).2) :
    readExponent (t ++ s) = ((readExponent t).1, (readExponent t).2 ++ s) := by
  cases t with
  | nil => simp [readExponent] at more
  | cons c t =>
    simp only [readExponent, List.cons_append] at more ⊢
    by_cases mark : c = 'e' ∨ c = 'E'
    · rw [if_pos mark] at more
      -- either way a character is there that the digits stop at
      have stops : afterDigits (readSign t).2 ≠ [] := by
        by_cases none : (digits (readSign t).2).isEmpty = true
        · have size : c.utf8Size = 1 := by rcases mark with rfl | rfl <;> rfl
          have short := readSign_width t
          rw [if_pos none, width_cons] at more
          rw [afterDigits_eq_self none]
          exact ne_nil_of_width (n := 0) (by omega)
        · rw [if_neg none] at more
          exact ne_nil_of_width more
      have some_char : t ≠ [] := by
        rintro rfl
        exact stops rfl
      obtain ⟨same, left⟩ := digits_lookahead s stops
      simp only [readSign_lookahead s some_char, same, left, if_pos mark]
      split <;> rfl
    · simp [mark]

theorem read?_lookahead {t rest : Text} {l : Literal} (s : Text)
    (h : Literal.read? t = some (l, rest)) (more : 3 ≤ width rest) :
    Literal.read? (t ++ s) = some (l, rest ++ s) := by
  obtain ⟨⟨whole, u⟩, found, eq⟩ := Option.map_eq_some_iff.1 h
  simp only [Prod.mk.injEq] at eq
  obtain ⟨rfl, rfl⟩ := eq
  have exponent := congrArg width (readExponent_append (readFraction u).2)
  have fraction := congrArg width (readFraction_append u)
  have minus := congrArg width (readWhole?_append found)
  have sign := congrArg width (readMinus_append t)
  simp only [width_append] at exponent fraction minus sign
  exact read?_eq (readMinus_lookahead s (ne_nil_of_width (n := 0) (by omega)))
    (readWhole?_lookahead s found (ne_nil_of_width (n := 0) (by omega)))
    (readFraction_lookahead u s (by omega)) (readExponent_lookahead _ s more)

end Decimal

namespace Cut
open Text Vocabulary

theorem symbol_lookahead {c : Char} {t : Text} (s : Text) (more : t ≠ [])
    (alone : ∀ op ∈ pairs, ¬ op.toList <+: c :: t) :
    ∀ op ∈ pairs, ¬ op.toList <+: c :: (t ++ s) := by
  intro op listed front
  obtain ⟨d, rest, rfl⟩ := List.exists_cons_of_ne_nil more
  obtain ⟨a, b, two, -⟩ := pairs_shape listed
  apply alone op listed
  rw [two] at front ⊢
  simp_all

theorem sigil_lookahead {t : Text} (s : Text) (more : (sigil ('$' :: t)).rest ≠ []) :
    sigil ('$' :: (t ++ s)) =
      ⟨(sigil ('$' :: t)).kind, (sigil ('$' :: t)).taken, (sigil ('$' :: t)).rest ++ s⟩ := by
  by_cases double : '$' ∈ t.head?
  · obtain ⟨rest, rfl⟩ := List.head?_eq_some_iff.1 double
    rfl
  · rw [sigil_single double] at more ⊢
    have single : '$' ∉ (t ++ s).head? := by
      cases t with
      | nil => simp at more
      | cons d t => exact double
    obtain ⟨same, left⟩ := takeWhile_stopped s more
    rw [sigil_single single, same, left]

theorem word_lookahead {t : Text} (s : Text) (more : (word t).rest ≠ []) :
    word (t ++ s) = ⟨(word t).kind, (word t).taken, (word t).rest ++ s⟩ := by
  obtain ⟨same, left⟩ := takeWhile_stopped s more
  rw [word_eq, same, left, word_eq]

/-- A lexeme with three bytes after it is cut the same whatever is appended. -/
theorem first_lookahead (c : Char) (t s : Text) (more : 3 ≤ width (first c t).rest) :
    first c (t ++ s) = ⟨(first c t).kind, (first c t).taken, (first c t).rest ++ s⟩ := by
  have some_left := ne_nil_of_width more
  cases opening c t with
  | pair op rest listed front =>
    have longer : c :: (t ++ s) = op.toList ++ (rest ++ s) := by
      rw [← List.cons_append, front, List.append_assoc]
    rw [first_pair listed longer, first_pair listed front]
  | symbol listed alone =>
    rw [first_symbol listed alone] at some_left ⊢
    exact first_symbol listed (symbol_lookahead s some_left alone)
  | quote listed =>
    rw [first_quote t listed] at some_left ⊢
    by_cases again : c ∈ t
    · obtain ⟨body, rest, rfl, inside⟩ := List.eq_append_cons_of_mem again
      rw [first_quote _ listed, List.append_assoc, List.cons_append,
        delimited_closed c _ inside, delimited_closed c rest inside]
    · -- an open string leaves nothing
      rw [delimited_open c again] at some_left
      contradiction
  | digit listed =>
    obtain ⟨l, rest, read, cut⟩ := number_digit t listed
    rw [first_digit t listed, cut] at more ⊢
    have longer := Decimal.read?_lookahead s read more
    rw [first_digit _ listed, number, ← List.cons_append, longer]
    rfl
  | sigil listed =>
    subst listed
    rw [first_sigil] at some_left ⊢
    rw [first_sigil, sigil_lookahead s some_left]
  | letter listed =>
    rw [first_letter t listed] at some_left ⊢
    rw [first_letter _ listed, ← List.cons_append, word_lookahead s some_left]
  | stray unlisted =>
    rw [first_stray t unlisted, first_stray _ unlisted]

/-- An open string takes all there is. -/
theorem rest_of_badString {c : Char} {t : Text} (h : (first c t).kind = .badString) :
    (first c t).rest = [] := by
  cases opening c t with
  | pair op rest listed front => simp [first_pair listed front] at h
  | symbol listed alone => simp [first_symbol listed alone] at h
  | quote listed =>
    rw [first_quote t listed] at h ⊢
    by_cases again : c ∈ t
    · obtain ⟨body, rest, rfl, inside⟩ := List.eq_append_cons_of_mem again
      simp [delimited_closed c rest inside] at h
    · rw [delimited_open c again]
  | digit listed =>
    obtain ⟨l, rest, read, cut⟩ := number_digit t listed
    rw [first_digit t listed, cut] at h
    simp only [literalKind] at h
    split at h <;> cases h
  | sigil listed =>
    subst listed
    rw [first_sigil] at h
    by_cases double : '$' ∈ t.head?
    · obtain ⟨rest, rfl⟩ := List.head?_eq_some_iff.1 double
      cases h
    · rw [sigil_single double] at h
      simp only [nameKind] at h
      split at h <;> cases h
  | letter listed =>
    rw [first_letter t listed, word_eq] at h
    simp only [wordKind] at h
    repeat' split at h
    all_goals cases h
  | stray unlisted => simp [first_stray t unlisted] at h

end Cut

namespace Token
open Text

/-- The token is no open string and has three bytes after it, in a line of `size` bytes. -/
def settled (size : Nat) (token : Token) : Bool :=
  token.kind != .badString && token.span.stop + 3 ≤ size

theorem settled_iff {size : Nat} {token : Token} :
    token.settled size = true ↔ token.kind ≠ .badString ∧ token.span.stop + 3 ≤ size := by
  simp [settled]

/-- Where the first lexeme is not settled, no later one is. -/
theorem none_settled {offset : Nat} {gap : Text} {c : Char} (t : Text) (blank : Blank gap)
    (solid : isBlank c = false)
    (unsettled : ¬ ((Cut.first c t).token (offset + width gap)).settled
      (offset + width (gap ++ c :: t)) = true) :
    (streamFrom offset (gap ++ c :: t)).filter (settled (offset + width (gap ++ c :: t))) =
      [] := by
  rw [streamFrom_lexeme t blank solid, List.filter_cons_of_neg unsettled, List.filter_eq_nil_iff]
  intro token member found
  obtain ⟨-, far⟩ := settled_iff.1 found
  by_cases string : (Cut.first c t).kind = .badString
  · rw [Cut.rest_of_badString string, streamFrom_of_blank blank_nil] at member
    cases member
  · obtain ⟨before, d, rest, -, -, rfl⟩ := cut_of_mem member
    apply unsettled
    refine settled_iff.2 ⟨string, ?_⟩
    simp only [Cut.token] at far ⊢
    omega

theorem filter_settled_prefix (offset : Nat) (t s : Text) :
    (streamFrom offset t).filter (settled (offset + width t)) <+: streamFrom offset (t ++ s) := by
  induction t using lexemeInduction generalizing offset with
  | blank t blank => simp [streamFrom_of_blank blank]
  | lexeme gap c t blank solid ih =>
    by_cases here : ((Cut.first c t).token (offset + width gap)).settled
        (offset + width (gap ++ c :: t)) = true
    · have size : offset + width (gap ++ c :: t) = offset + width gap +
          width (Cut.first c t).taken + width (Cut.first c t).rest := by
        rw [← Cut.first_append, width_append, width_append]
        omega
      obtain ⟨-, far⟩ := settled_iff.1 here
      simp only [Cut.token] at far
      have again := Cut.first_lookahead c t s (by omega)
      rw [List.append_assoc, List.cons_append, streamFrom_lexeme t blank solid,
        streamFrom_lexeme (t ++ s) blank solid, again, List.filter_cons_of_pos here, size]
      exact List.cons_prefix_cons.2 ⟨rfl, ih _⟩
    · rw [none_settled t blank solid here]
      exact List.nil_prefix

/-- Appending to a line changes no token but an open string and those that end within its last
two bytes. -/
theorem settled_prefix (line more : Text) :
    (stream line).filter (settled (width line)) <+: stream line ∧
      (stream line).filter (settled (width line)) <+: stream (line ++ more) := by
  have within := filter_settled_prefix 0 line
  simp only [Nat.zero_add] at within
  have alone := within []
  rw [List.append_nil] at alone
  exact ⟨alone, within more⟩

/-- Two bytes are not enough. -/
example :
    stream "1e+".toList = [⟨.number, 0, 1⟩, ⟨.field, 1, 2⟩, ⟨.operator, 2, 3⟩] ∧
      stream "1e+5".toList = [⟨.number, 0, 4⟩] := by
  decide +kernel

end Token

end QueryInk

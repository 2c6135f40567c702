import QueryInk.Proofs.Token.Grammar

/-!
# Strings as a reader of quotes sees them

A reader that looks at nothing but quotes, and remembers only which one it is
inside, finds the same strings as the rules do. No other lexeme holds a quote
(`Cut.first_unquoted`), so each leaves the reader outside (`watch_whole`), or it is
an open string and the reader is inside to the end (`watch_open`).
-/

namespace QueryInk
open Alphabet (quotes mem_quotes)

/-! ## Where no quote can be -/

namespace Token
open Text Vocabulary

theorem symbol_unquoted {c : Char} (listed : isSymbol c = true) : c ∉ quotes := by
  obtain ⟨noQuote, -, noTick, -⟩ := symbol_alone listed
  simp [mem_quotes, noQuote, noTick]

theorem name_unquoted {c : Char} (name : isNameChar c = true) : c ∉ quotes := by
  obtain ⟨noQuote, noTick, -⟩ := name_alone name
  simp [mem_quotes, noQuote, noTick]

theorem blank_unquoted {c : Char} (blank : isBlank c = true) : c ∉ quotes := by
  have solid : quotes.all (fun q => isBlank q = false) = true := by decide
  intro quote
  rw [List.all_iff_forall_prop.1 solid c quote] at blank
  contradiction

theorem literal_unquoted {l : Decimal.Literal} {c : Char} (wf : l.WellFormed)
    (inside : c ∈ l.text) : c ∉ quotes := by
  have others : ['-', '.', 'e', 'E', '+'].all (fun c => c ∉ quotes) = true := by decide
  rcases Decimal.mem_text wf inside with digit | other
  · exact name_unquoted (isNameChar_of_isDigit digit)
  · exact List.all_iff_forall_prop.1 others c other

end Token

namespace Cut
open Text Token Vocabulary

/-- A lexeme without quotes that is no string. -/
structure Unquoted (cut : Cut) : Prop where
  taken : ∀ c ∈ cut.taken, c ∉ quotes
  noString : cut.kind ≠ .string
  noBadString : cut.kind ≠ .badString

/-- What does not start with a quote holds none. -/
theorem first_unquoted {c : Char} (t : Text) (plain : c ∉ quotes) : (first c t).Unquoted := by
  cases opening c t with
  | pair op rest listed front =>
    obtain ⟨a, b, two, ha, hb⟩ := pairs_shape listed
    rw [first_pair listed front]
    refine ⟨?_, by simp, by simp⟩
    simp [two, symbol_unquoted ha, symbol_unquoted hb]
  | symbol listed alone =>
    rw [first_symbol listed alone]
    exact ⟨by simpa using plain, by simp, by simp⟩
  | quote listed => exact absurd (mem_quotes.2 listed) plain
  | digit listed =>
    obtain ⟨l, rest, read, cut⟩ := number_digit t listed
    rw [first_digit t listed, cut]
    refine ⟨?_, ?_, ?_⟩
    · intro d inside
      exact literal_unquoted (Decimal.read?_wellFormed read) inside
    all_goals
      simp only [literalKind]
      split <;> decide
  | sigil listed =>
    subst listed
    by_cases double : '$' ∈ t.head?
    · obtain ⟨rest, rfl⟩ := List.head?_eq_some_iff.1 double
      have root : first '$' ('$' :: rest) = ⟨.builtin, ['$', '$'], rest⟩ := rfl
      rw [root]
      exact ⟨by simpa using plain, by simp, by simp⟩
    · rw [first_sigil, sigil_single double]
      refine ⟨?_, ?_, ?_⟩
      · rw [List.forall_mem_cons]
        exact ⟨plain, fun d inside => name_unquoted (List.mem_takeWhile_imp inside)⟩
      all_goals
        simp only [nameKind]
        split <;> decide
  | letter listed =>
    rw [first_letter t listed, word_eq]
    refine ⟨?_, ?_, ?_⟩
    · intro d inside
      exact name_unquoted (isNameChar_of_isWordChar (List.mem_takeWhile_imp inside))
    all_goals
      simp only [wordKind]
      split_ifs <;> decide
  | stray unlisted =>
    rw [first_stray t unlisted]
    exact ⟨by simpa using plain, by simp, by simp⟩

end Cut

/-! ## The reader -/

/-- Whether a reader of quotes is inside a quoted text, and which quote closes it. -/
inductive Quoting
  | outside
  | inDouble
  | inSingle
  | inBacktick
  deriving DecidableEq, Repr

namespace Quoting
open Token

def step : Quoting → Char → Quoting
  | outside, c =>
    if c = '"' then inDouble
    else if c = '\'' then inSingle
    else if c = '\x60' then inBacktick
    else outside
  | inDouble, c => if c = '"' then outside else inDouble
  | inSingle, c => if c = '\'' then outside else inSingle
  | inBacktick, c => if c = '\x60' then outside else inBacktick

theorem step_plain {c : Char} (plain : c ∉ quotes) : outside.step c = outside := by
  simp only [quotes, List.mem_cons, List.not_mem_nil, or_false, not_or] at plain
  simp [step, plain]

theorem step_open {q : Char} (quote : q ∈ quotes) : outside.step q ≠ outside := by
  have each : quotes.all (fun q => outside.step q ≠ outside) = true := by decide
  exact List.all_iff_forall_prop.1 each q quote

theorem step_close {q : Char} (quote : q ∈ quotes) : (outside.step q).step q = outside := by
  have each : quotes.all (fun q => (outside.step q).step q = outside) = true := by decide
  exact List.all_iff_forall_prop.1 each q quote

theorem step_inside {q d : Char} (quote : q ∈ quotes) (other : d ≠ q) :
    (outside.step q).step d = outside.step q := by
  simp only [quotes, List.mem_cons, List.not_mem_nil, or_false] at quote
  rcases quote with rfl | rfl | rfl <;> simp_all [step]

end Quoting

/-- A reader of quotes at a byte of its line, with what it has seen. -/
structure Watch where
  state : Quoting
  position : Nat
  /-- Where the last quoted text begins. -/
  opened : Nat
  /-- The quoted texts that are closed. -/
  closed : List Span
  deriving DecidableEq, Repr

namespace Watch
open Text Token

def read (w : Watch) (c : Char) : Watch :=
  let state := w.state.step c
  let position := w.position + c.utf8Size
  { state, position
    opened := if w.state = .outside ∧ state ≠ .outside then w.position else w.opened
    closed :=
      if w.state ≠ .outside ∧ state = .outside then w.closed ++ [⟨w.opened, position⟩]
      else w.closed }

def start : Watch := ⟨.outside, 0, 0, []⟩

def ofLine (line : Text) : Watch := line.foldl read start

theorem state_foldl (w : Watch) (t : Text) :
    (t.foldl read w).state = t.foldl Quoting.step w.state := by
  induction t generalizing w with
  | nil => rfl
  | cons c t ih => rw [List.foldl_cons, List.foldl_cons, ih, read]

theorem position_foldl (w : Watch) (t : Text) :
    (t.foldl read w).position = w.position + width t := by
  induction t generalizing w with
  | nil => rfl
  | cons c t ih => rw [List.foldl_cons, ih, read, width_cons, Nat.add_assoc]

/-- Characters that change nothing are only counted. -/
theorem foldl_same {w : Watch} {t : Text} (same : ∀ c ∈ t, w.state.step c = w.state) :
    t.foldl read w = { w with position := w.position + width t } := by
  induction t generalizing w with
  | nil => rfl
  | cons c t ih =>
    rw [List.forall_mem_cons] at same
    have first : w.read c = { w with position := w.position + c.utf8Size } := by
      simp [read, same.1]
    have later := ih (w := w.read c) (by rw [first]; exact same.2)
    rw [List.foldl_cons, later, first, width_cons, Nat.add_assoc]

theorem foldl_plain {w : Watch} {t : Text} (out : w.state = .outside)
    (plain : ∀ c ∈ t, c ∉ quotes) :
    t.foldl read w = { w with position := w.position + width t } := by
  apply foldl_same
  intro c inside
  rw [out]
  exact Quoting.step_plain (plain c inside)

theorem foldl_blank {w : Watch} {gap : Text} (out : w.state = .outside) (blank : Blank gap) :
    gap.foldl read w = { w with position := w.position + width gap } := by
  apply foldl_plain out
  intro c inside
  exact blank_unquoted (blank c inside)

theorem foldl_open {w : Watch} {q : Char} {body : Text} (out : w.state = .outside)
    (quote : q ∈ quotes) (inside : q ∉ body) :
    (q :: body).foldl read w =
      ⟨Quoting.outside.step q, w.position + width (q :: body), w.position, w.closed⟩ := by
  have first : w.read q =
      ⟨Quoting.outside.step q, w.position + q.utf8Size, w.position, w.closed⟩ := by
    simp [read, out, Quoting.step_open quote]
  rw [List.foldl_cons, first, foldl_same, width_cons, Nat.add_assoc]
  intro d member
  exact Quoting.step_inside quote (ne_of_mem_of_not_mem member inside)

theorem foldl_closed {w : Watch} {q : Char} {body : Text} (out : w.state = .outside)
    (quote : q ∈ quotes) (inside : q ∉ body) :
    (q :: (body ++ [q])).foldl read w =
      ⟨.outside, w.position + width (q :: (body ++ [q])), w.position,
        w.closed ++ [⟨w.position, w.position + width (q :: (body ++ [q]))⟩]⟩ := by
  rw [← List.cons_append, List.foldl_append, foldl_open out quote inside]
  have shut := Quoting.step_close quote
  simp [read, shut, Quoting.step_open quote, Nat.add_assoc]

end Watch

/-! ## The strings of a line -/

namespace Token
open Text

/-- Where the strings among the tokens stand. -/
def strings (tokens : List Token) : List Span :=
  (tokens.filter (·.kind == .string)).map (·.span)

/-- The strings among the tokens are what a reader closed after the regions `before`, and it
is inside an open one at the end just if the last token is. -/
structure Found (before : List Span) (tokens : List Token) (seen : Watch) : Prop where
  closed : seen.closed = before ++ strings tokens
  outside : seen.state = .outside → ∀ token ∈ tokens, token.kind ≠ .badString
  inside : seen.state ≠ .outside → ∃ earlier,
    tokens = earlier ++ [⟨.badString, seen.opened, seen.position⟩] ∧
      ∀ token ∈ earlier, token.kind ≠ .badString

theorem Found.nil {before : List Span} {seen : Watch} (out : seen.state = .outside)
    (same : seen.closed = before) : Found before [] seen where
  closed := by simp [strings, same]
  outside := by simp
  inside := by
    intro stuck
    contradiction

theorem Found.unclosed (before : List Span) (start stop : Nat) {state : Quoting}
    (stuck : state ≠ .outside) :
    Found before [⟨.badString, start, stop⟩] ⟨state, stop, start, before⟩ where
  closed := by simp [strings]
  outside := by
    intro out
    contradiction
  inside := by
    intro _
    exact ⟨[], rfl, by simp⟩

/-- A token that is no open string comes before the others. -/
theorem Found.cons {before : List Span} {token : Token} {tokens : List Token} {seen : Watch}
    (whole : token.kind ≠ .badString) (later : Found (before ++ strings [token]) tokens seen) :
    Found before (token :: tokens) seen where
  closed := by
    rw [later.closed, List.append_assoc, strings, strings, ← List.map_append,
      ← List.filter_append]
    rfl
  outside := by
    intro out
    exact List.forall_mem_cons.2 ⟨whole, later.outside out⟩
  inside := by
    intro stuck
    obtain ⟨earlier, rfl, others⟩ := later.inside stuck
    exact ⟨token :: earlier, rfl, List.forall_mem_cons.2 ⟨whole, others⟩⟩

/-- One step: a lexeme that is no open string leaves the reader outside, with one more region
if it is a string. -/
theorem watch_whole {w : Watch} {c : Char} {t : Text} (out : w.state = .outside)
    (whole : (Cut.first c t).kind ≠ .badString) :
    ((Cut.first c t).taken.foldl Watch.read w).state = .outside ∧
      ((Cut.first c t).taken.foldl Watch.read w).closed =
        w.closed ++ strings [(Cut.first c t).token w.position] := by
  by_cases quote : c ∈ quotes
  · by_cases again : c ∈ t
    · obtain ⟨body, rest, rfl, inside⟩ := List.eq_append_cons_of_mem again
      rw [Cut.first_quote _ (mem_quotes.1 quote), Cut.delimited_closed c rest inside,
        Watch.foldl_closed out quote inside]
      exact ⟨rfl, rfl⟩
    · rw [Cut.first_quote _ (mem_quotes.1 quote), Cut.delimited_open c again] at whole
      contradiction
  · have unquoted := Cut.first_unquoted t quote
    have none_here : strings [(Cut.first c t).token w.position] = [] := by
      simp [strings, Cut.token, unquoted.noString]
    rw [Watch.foldl_plain out unquoted.taken, none_here, List.append_nil]
    exact ⟨out, rfl⟩

/-- An open string takes all that is left, and the reader stays inside it. -/
theorem watch_open {w : Watch} {c : Char} {t : Text} (out : w.state = .outside)
    (stuck : (Cut.first c t).kind = .badString) :
    Cut.first c t = ⟨.badString, c :: t, []⟩ ∧ ∃ state ≠ Quoting.outside,
      (c :: t).foldl Watch.read w =
        ⟨state, w.position + width (c :: t), w.position, w.closed⟩ := by
  by_cases quote : c ∈ quotes
  · rw [Cut.first_quote _ (mem_quotes.1 quote)] at stuck ⊢
    by_cases again : c ∈ t
    · obtain ⟨body, rest, rfl, inside⟩ := List.eq_append_cons_of_mem again
      rw [Cut.delimited_closed c rest inside] at stuck
      contradiction
    · exact ⟨Cut.delimited_open c again, _, Quoting.step_open quote,
        Watch.foldl_open out quote again⟩
  · exact absurd stuck (Cut.first_unquoted t quote).noBadString

/-- The whole run: a reader that is outside sees the strings that the rules cut. -/
theorem watch_stream {w : Watch} (t : Text) (out : w.state = .outside) :
    Found w.closed (streamFrom w.position t) (t.foldl Watch.read w) := by
  induction t using lexemeInduction generalizing w with
  | blank t blank =>
    rw [streamFrom_of_blank blank, Watch.foldl_blank out blank]
    exact .nil out rfl
  | lexeme gap c t blank solid ih =>
    rw [streamFrom_lexeme t blank solid, List.foldl_append, Watch.foldl_blank out blank]
    generalize moved : { w with position := w.position + width gap } = u
    have outside : u.state = .outside := by rw [← moved, out]
    have before : u.closed = w.closed := by rw [← moved]
    have start : u.position = w.position + width gap := by rw [← moved]
    rw [← before, ← start]
    by_cases stuck : (Cut.first c t).kind = .badString
    · obtain ⟨cut, state, inside, seen⟩ := watch_open outside stuck
      rw [cut, seen, streamFrom_of_blank blank_nil]
      exact .unclosed _ _ _ inside
    · obtain ⟨again, closed⟩ := watch_whole outside stuck
      have later := ih again
      rw [closed, Watch.position_foldl, ← List.foldl_append, Cut.first_append] at later
      exact .cons stuck later

/-- The strings of a line are the regions that a reader of quotes closes. A line has an open
string just if the reader is inside one at the end; it is the last token and the only one. -/
theorem strings_are_regions (line : Text) :
    strings (stream line) = (Watch.ofLine line).closed ∧
      ((∃ token ∈ stream line, token.kind = .badString) ↔
        line.foldl Quoting.step .outside ≠ .outside) ∧
      (line.foldl Quoting.step .outside ≠ .outside → ∃ earlier,
        stream line = earlier ++ [⟨.badString, (Watch.ofLine line).opened, width line⟩] ∧
          ∀ token ∈ earlier, token.kind ≠ .badString) := by
  have found : Found [] (stream line) (Watch.ofLine line) :=
    watch_stream (w := Watch.start) line rfl
  have state : (Watch.ofLine line).state = line.foldl Quoting.step .outside :=
    Watch.state_foldl Watch.start line
  have stop : (Watch.ofLine line).position = width line := by
    rw [Watch.ofLine, Watch.position_foldl]
    exact Nat.zero_add _
  rw [← state, ← stop]
  refine ⟨found.closed.symm, ⟨?_, ?_⟩, found.inside⟩
  · rintro ⟨token, member, bad⟩ out
    exact found.outside out token member bad
  · intro stuck
    obtain ⟨earlier, tokens, -⟩ := found.inside stuck
    exact ⟨_, tokens ▸ List.mem_concat_self, rfl⟩

/-- The other quote inside a string opens nothing, and a backslash does not keep one open. -/
theorem strings_are_regions_open :
    (Watch.ofLine "é\"a'\\\" 'b".toList).closed = [⟨2, 7⟩] ∧
      "é\"a'\\\" 'b".toList.foldl Quoting.step .outside = .inSingle ∧
      strings (stream "é\"a'\\\" 'b".toList) = [⟨2, 7⟩] ∧
      ∃ earlier, stream "é\"a'\\\" 'b".toList = earlier ++ [⟨.badString, 8, 10⟩] ∧
        ∀ token ∈ earlier, token.kind ≠ .badString := by
  have closed : (Watch.ofLine "é\"a'\\\" 'b".toList).closed = [⟨2, 7⟩] := by decide
  have inside : "é\"a'\\\" 'b".toList.foldl Quoting.step .outside = .inSingle := by decide
  obtain ⟨strings, -, unclosed⟩ := strings_are_regions "é\"a'\\\" 'b".toList
  exact ⟨closed, inside, strings.trans closed, unclosed (by rw [inside]; decide)⟩

end Token

end QueryInk

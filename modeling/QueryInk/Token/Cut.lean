import QueryInk.Decimal.Literal
import QueryInk.Token.Kind
import QueryInk.Token.Vocabulary

namespace QueryInk

/-- A lexeme and the text that follows it. -/
structure Cut where
  kind : Kind
  taken : Text
  rest : Text
  deriving DecidableEq, Repr

namespace Cut

/-- Cuts after the first `n` characters. -/
def after (kind : Kind) (n : Nat) (t : Text) : Cut := ⟨kind, t.take n, t.drop n⟩

/-- An operator of two characters. -/
def pair? (t : Text) : Option Cut :=
  (Vocabulary.pairs.find? (·.toList.isPrefixOf t)).map fun op => after .operator op.length t

def symbol (t : Text) : Cut := after .operator 1 t

/-- From the character at the front through the next `close`. Nothing is an escape. With no
`close` the lexeme is all that is left. -/
def delimited (close : Char) : Text → Cut
  | [] => ⟨.badString, [], []⟩
  | c :: t =>
    match t.dropWhile (· != close) with
    | [] => ⟨.badString, c :: t, []⟩
    | d :: rest => ⟨.string, c :: (t.takeWhile (· != close) ++ [d]), rest⟩

/-- Where no literal starts, one character is taken as a malformed one. -/
def number (t : Text) : Cut :=
  match Decimal.Literal.read? t with
  | some (l, rest) => ⟨if l.isFinite then .number else .badNumber, l.text, rest⟩
  | none => after .badNumber 1 t

/-- A name with its sigil. `$$` and a lone sigil stand for the context and are built in. -/
def sigil : Text → Cut
  | '$' :: '$' :: rest => ⟨.builtin, ['$', '$'], rest⟩
  | [] => ⟨.builtin, [], []⟩
  | c :: t =>
    let name := t.takeWhile Text.isNameChar
    let kind := if name.isEmpty || Vocabulary.isFunction name then Kind.builtin else .var
    ⟨kind, c :: name, t.dropWhile Text.isNameChar⟩

def word (t : Text) : Cut :=
  let letters := t.takeWhile Text.isWordChar
  let kind :=
    if Vocabulary.isWordOperator letters then Kind.operator
    else if Vocabulary.isKeyword letters then .keyword
    else .field
  ⟨kind, letters, t.dropWhile Text.isWordChar⟩

/-- The quote of names that are not bare words. -/
def backtick : Char := '\x60'

/-- The rule for what starts with `c`, when no operator of two characters does. -/
def byFirst (c : Char) (t : Text) : Cut :=
  if Vocabulary.isSymbol c then symbol t
  else if Text.isQuote c then delimited c t
  else if c.isDigit then number t
  else if c == backtick then delimited backtick t
  else if c == '$' then sigil t
  else if Text.isWordChar c then word t
  else after .stray 1 t

/-- The lexeme that starts with `c` and goes on into `t`. -/
def first (c : Char) (t : Text) : Cut := (pair? (c :: t)).getD (byFirst c (c :: t))

/-! A rule splits the text in two, and the rule picked for a character takes that character. -/

theorem after_append (kind : Kind) (n : Nat) (t : Text) :
    (after kind n t).taken ++ (after kind n t).rest = t := by
  simp [after]

theorem after_ne_nil (kind : Kind) {n : Nat} (c : Char) (t : Text) (h : n ≠ 0) :
    (after kind n (c :: t)).taken ≠ [] := by
  simp [after, h]

theorem pair?_append {t : Text} {cut : Cut} (h : pair? t = some cut) :
    cut.taken ++ cut.rest = t := by
  obtain ⟨op, _, rfl⟩ := Option.map_eq_some_iff.1 h
  exact after_append ..

theorem delimited_append (close : Char) (t : Text) :
    (delimited close t).taken ++ (delimited close t).rest = t := by
  cases t with
  | nil => rfl
  | cons c t =>
    simp only [delimited]
    split
    · simp
    · next d rest found =>
      have := List.takeWhile_append_dropWhile (p := (· != close)) (l := t)
      simp_all

theorem number_append (t : Text) : (number t).taken ++ (number t).rest = t := by
  simp only [number]
  split
  · next found => exact Decimal.Literal.read?_append found
  · exact after_append ..

theorem sigil_append (t : Text) : (sigil t).taken ++ (sigil t).rest = t := by
  unfold sigil
  split <;> simp

theorem word_append (t : Text) : (word t).taken ++ (word t).rest = t := by
  simp [word]

theorem byFirst_append (c : Char) (t : Text) :
    (byFirst c t).taken ++ (byFirst c t).rest = t := by
  unfold byFirst
  repeat' split
  · exact after_append ..
  · exact delimited_append ..
  · exact number_append ..
  · exact delimited_append ..
  · exact sigil_append ..
  · exact word_append ..
  · exact after_append ..

theorem first_append (c : Char) (t : Text) : (first c t).taken ++ (first c t).rest = c :: t := by
  unfold first
  cases h : pair? (c :: t) with
  | none => exact byFirst_append ..
  | some cut => exact pair?_append h

theorem byFirst_ne_nil (c : Char) (t : Text) : (byFirst c (c :: t)).taken ≠ [] := by
  unfold byFirst
  repeat' split
  · exact after_ne_nil _ c t (by decide)
  · simp only [delimited]; split <;> simp
  · simp only [number]
    split
    · next found => exact Decimal.Literal.read?_text_ne_nil found
    · exact after_ne_nil _ c t (by decide)
  · simp only [delimited]; split <;> simp
  · unfold sigil; split <;> simp_all
  · next letter => simp [word, letter]
  · exact after_ne_nil _ c t (by decide)

theorem first_ne_nil (c : Char) (t : Text) : (first c t).taken ≠ [] := by
  unfold first
  cases h : pair? (c :: t) with
  | none => exact byFirst_ne_nil c t
  | some cut =>
    obtain ⟨op, found, rfl⟩ := Option.map_eq_some_iff.1 h
    have sizes : ∀ op ∈ Vocabulary.pairs, op.length ≠ 0 := by decide
    exact after_ne_nil _ c t (sizes op (List.mem_of_find?_eq_some found))

/-- A rule takes at least one character. -/
theorem first_rest_length (c : Char) (t : Text) : (first c t).rest.length ≤ t.length := by
  have whole := congrArg List.length (first_append c t)
  have some_taken := List.length_pos_iff.2 (first_ne_nil c t)
  simp at whole
  omega

end Cut

end QueryInk

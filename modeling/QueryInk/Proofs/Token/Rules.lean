import Mathlib.Data.Bool.AllAny
import QueryInk.Proofs.Decimal.Grammar
import QueryInk.Token.Cut

/-!
# What each rule cuts

The classes of characters that a lexeme can start with are disjoint, so the order
in which the rules are tried matters only for operators: `opening` lists the ways a
text can start, and each has one equation for `first`.
-/

namespace QueryInk

namespace Text

/-- Nothing comes next, or a blank. -/
def Ends (t : Text) : Prop := ∀ c ∈ t.head?, isBlank c = true

theorem ends_nil : Ends [] := by simp [Ends]

theorem isAlpha_iff {c : Char} :
    c.isAlpha = true ↔ 65 ≤ c.toNat ∧ c.toNat ≤ 90 ∨ 97 ≤ c.toNat ∧ c.toNat ≤ 122 := by
  change (decide (65 ≤ c.val ∧ c.val ≤ 90) || (decide (97 ≤ c.val) && decide (c.val ≤ 122))) =
    true ↔ _
  simp [UInt32.le_iff_toNat_le]

theorem isNameChar_range {c : Char} (h : isNameChar c = true) :
    45 ≤ c.toNat ∧ c.toNat ≤ 122 := by
  simp only [isNameChar, Char.isAlphanum, Bool.or_eq_true, beq_iff_eq] at h
  rcases h with ((letter | digit) | rfl) | rfl
  · have := isAlpha_iff.1 letter
    omega
  · have := Decimal.isDigit_iff.1 digit
    omega
  · decide
  · decide

theorem isBlank_range {c : Char} (h : isBlank c = true) : c.toNat ≤ 32 ∨ 133 ≤ c.toNat := by
  simp only [isBlank, blankRanges, List.any_cons, List.any_nil, Bool.or_eq_true, Bool.and_eq_true,
    decide_eq_true_eq, Bool.or_false] at h
  omega

theorem isNameChar_of_isBlank {c : Char} (h : isBlank c = true) : isNameChar c = false := by
  cases name : isNameChar c with
  | false => rfl
  | true =>
    have := isNameChar_range name
    have := isBlank_range h
    omega

theorem isNameChar_of_isDigit {c : Char} (h : c.isDigit = true) : isNameChar c = true := by
  simp [isNameChar, Char.isAlphanum, h]

theorem isNameChar_of_isWordChar {c : Char} (h : isWordChar c = true) : isNameChar c = true := by
  have letter : c.isAlpha = true := h
  simp [isNameChar, Char.isAlphanum, letter]

/-- What can stand in a name quotes nothing and starts no name. -/
theorem name_alone {c : Char} (h : isNameChar c = true) :
    isQuote c = false ∧ c ≠ Cut.backtick ∧ c ≠ '$' := by
  refine ⟨?_, ?_, ?_⟩
  · cases quote : isQuote c with
    | false => rfl
    | true =>
      simp only [isQuote, Bool.or_eq_true, beq_iff_eq] at quote
      rcases quote with rfl | rfl <;> contradiction
  · rintro rfl
    contradiction
  · rintro rfl
    contradiction

theorem not_isWordChar_of_isDigit {c : Char} (h : c.isDigit = true) : isWordChar c = false := by
  cases letter : isWordChar c with
  | false => rfl
  | true =>
    have := Decimal.isDigit_iff.1 h
    have := isAlpha_iff.1 letter
    omega

end Text

namespace Vocabulary
open Text

theorem pairs_shape {op : String} (h : op ∈ pairs) :
    ∃ a b, op.toList = [a, b] ∧ isSymbol a = true ∧ isSymbol b = true := by
  have shape : ∀ op ∈ pairs, op.toList.length = 2 ∧ op.toList.all isSymbol = true := by decide
  obtain ⟨two, all⟩ := shape op h
  rw [List.all_eq_true] at all
  obtain ⟨a, b, eq⟩ := List.length_eq_two.1 two
  exact ⟨a, b, eq, all a (by simp [eq]), all b (by simp [eq])⟩

/-- No symbol is in another class that a lexeme can start with. -/
theorem symbol_alone {c : Char} (h : isSymbol c = true) :
    isQuote c = false ∧ c.isDigit = false ∧ c ≠ Cut.backtick ∧ c ≠ '$' ∧ isWordChar c = false ∧
      isBlank c = false := by
  have alone : symbols.all (fun c => isQuote c = false ∧ c.isDigit = false ∧ c ≠ Cut.backtick ∧
      c ≠ '$' ∧ isWordChar c = false ∧ isBlank c = false) = true := by
    decide
  exact List.all_iff_forall_prop.1 alone c (List.contains_iff_mem.1 h)

theorem isSymbol_eq_false {c : Char}
    (h : isQuote c = true ∨ c.isDigit = true ∨ c = Cut.backtick ∨ c = '$' ∨ isWordChar c = true ∨
      isBlank c = true) : isSymbol c = false := by
  cases symbol : isSymbol c with
  | false => rfl
  | true =>
    have alone := symbol_alone symbol
    simp_all

end Vocabulary

namespace Cut
open Text Vocabulary

/-- The ways a text that is not empty can start. -/
inductive Opening (c : Char) (t : Text) : Prop
  | pair (op : String) (rest : Text) (listed : op ∈ pairs) (front : c :: t = op.toList ++ rest)
  | symbol (listed : isSymbol c = true) (alone : ∀ op ∈ pairs, ¬ op.toList <+: c :: t)
  | quote (listed : isQuote c = true ∨ c = backtick)
  | digit (listed : c.isDigit = true)
  | sigil (listed : c = '$')
  | letter (listed : isWordChar c = true)
  | stray (unlisted : isSymbol c = false ∧ isQuote c = false ∧ c ≠ backtick ∧ c.isDigit = false ∧
      c ≠ '$' ∧ isWordChar c = false)

theorem opening (c : Char) (t : Text) : Opening c t := by
  by_cases pair : ∃ op ∈ pairs, op.toList <+: c :: t
  · obtain ⟨op, listed, rest, front⟩ := pair
    exact .pair op rest listed front.symm
  by_cases symbol : isSymbol c = true
  · exact .symbol symbol fun op listed front => pair ⟨op, listed, front⟩
  by_cases quote : isQuote c = true ∨ c = backtick
  · exact .quote quote
  by_cases digit : c.isDigit = true
  · exact .digit digit
  by_cases sigil : c = '$'
  · exact .sigil sigil
  by_cases letter : isWordChar c = true
  · exact .letter letter
  · simp only [not_or, Bool.not_eq_true] at *
    exact .stray ⟨symbol, quote.1, quote.2, digit, sigil, letter⟩

/-! ## The rule that is picked -/

theorem pair?_listed {op : String} (listed : op ∈ pairs) (rest : Text) :
    pair? (op.toList ++ rest) = some ⟨.operator, op.toList, rest⟩ := by
  unfold pair?
  cases found : pairs.find? (·.toList.isPrefixOf (op.toList ++ rest)) with
  | none =>
    have miss := List.find?_eq_none.1 found op listed
    simp at miss
  | some other =>
    -- both operators are the first two characters
    have front : other.toList <+: op.toList ++ rest := by
      simpa using List.find?_some found
    obtain ⟨a, b, two, -⟩ := pairs_shape listed
    obtain ⟨x, y, two', -⟩ := pairs_shape (List.mem_of_find?_eq_some found)
    have same : other.toList = op.toList := by
      simp_all
    have length : other.length = op.toList.length := by
      rw [← same, String.length_toList]
    simp [after, length]

theorem pair?_alone {t : Text} (alone : ∀ op ∈ pairs, ¬ op.toList <+: t) : pair? t = none := by
  simpa [pair?] using alone

theorem not_prefix_of_not_symbol {c : Char} {t : Text} (h : isSymbol c = false) :
    ∀ op ∈ pairs, ¬ op.toList <+: c :: t := by
  intro op listed front
  obtain ⟨a, b, eq, ha, -⟩ := pairs_shape listed
  rw [eq, List.cons_prefix_cons] at front
  simp_all

theorem first_pair {op : String} {c : Char} {t rest : Text} (listed : op ∈ pairs)
    (front : c :: t = op.toList ++ rest) : first c t = ⟨.operator, op.toList, rest⟩ := by
  simp [first, front, pair?_listed listed]

theorem first_symbol {c : Char} {t : Text} (listed : isSymbol c = true)
    (alone : ∀ op ∈ pairs, ¬ op.toList <+: c :: t) : first c t = ⟨.operator, [c], t⟩ := by
  simp [first, pair?_alone alone, byFirst, listed, symbol, after]

theorem first_of_not_symbol {c : Char} (t : Text) (h : isSymbol c = false) :
    first c t = byFirst c (c :: t) := by
  simp [first, pair?_alone (not_prefix_of_not_symbol h)]

theorem first_quote {c : Char} (t : Text) (listed : isQuote c = true ∨ c = backtick) :
    first c t = delimited c (c :: t) := by
  have unlisted : isSymbol c = false := isSymbol_eq_false (by tauto)
  rw [first_of_not_symbol t unlisted]
  rcases listed with quote | rfl
  · simp [byFirst, unlisted, quote]
  · rfl

theorem first_digit {c : Char} (t : Text) (listed : c.isDigit = true) :
    first c t = number (c :: t) := by
  have unlisted : isSymbol c = false := isSymbol_eq_false (by tauto)
  have unquoted := (name_alone (isNameChar_of_isDigit listed)).1
  simp [first_of_not_symbol t unlisted, byFirst, unlisted, unquoted, listed]

theorem first_sigil (t : Text) : first '$' t = sigil ('$' :: t) :=
  first_of_not_symbol t (isSymbol_eq_false (by tauto))

theorem first_letter {c : Char} (t : Text) (listed : isWordChar c = true) :
    first c t = word (c :: t) := by
  have unlisted : isSymbol c = false := isSymbol_eq_false (by tauto)
  have no_digit : c.isDigit = false := by
    cases digit : c.isDigit with
    | false => rfl
    | true => simp [not_isWordChar_of_isDigit digit] at listed
  have others := name_alone (isNameChar_of_isWordChar listed)
  simp [first_of_not_symbol t unlisted, byFirst, unlisted, no_digit, others, listed]

theorem first_stray {c : Char} (t : Text)
    (unlisted : isSymbol c = false ∧ isQuote c = false ∧ c ≠ backtick ∧ c.isDigit = false ∧
      c ≠ '$' ∧ isWordChar c = false) : first c t = ⟨.stray, [c], t⟩ := by
  simp [first_of_not_symbol t unlisted.1, byFirst, unlisted, after]

/-! ## What the rule takes -/

theorem delimited_closed {close : Char} {body : Text} (c : Char) (rest : Text)
    (inside : close ∉ body) :
    delimited close (c :: (body ++ close :: rest)) = ⟨.string, c :: (body ++ [close]), rest⟩ := by
  have run := bne_of_notMem inside
  have stop : ∀ d ∈ (close :: rest).head?, (d != close) = false := by simp
  simp [delimited, takeWhile_run run stop, dropWhile_run run stop]

theorem delimited_open {close : Char} {body : Text} (c : Char) (inside : close ∉ body) :
    delimited close (c :: body) = ⟨.badString, c :: body, []⟩ := by
  have run : body.dropWhile (· != close) = [] := List.dropWhile_eq_nil_iff.2 (bne_of_notMem inside)
  simp [delimited, run]

/-- The kind of a literal. -/
def literalKind (l : Decimal.Literal) : Kind := if l.isFinite then .number else .badNumber

theorem number_text {l : Decimal.Literal} {rest : Text} (h : l.WellFormed)
    (stop : Decimal.Unextending rest) :
    number (l.text ++ rest) = ⟨literalKind l, l.text, rest⟩ := by
  simp [number, Decimal.read?_text h stop, literalKind]

theorem number_digit {c : Char} (t : Text) (h : c.isDigit = true) :
    ∃ l rest, Decimal.Literal.read? (c :: t) = some (l, rest) ∧
      number (c :: t) = ⟨literalKind l, l.text, rest⟩ := by
  obtain ⟨l, rest, read⟩ := Decimal.read?_digit t h
  exact ⟨l, rest, read, by simp [number, read, literalKind]⟩

/-- The kind of a name with its sigil. -/
def nameKind (name : Text) : Kind := if name.isEmpty || isFunction name then .builtin else .var

theorem sigil_single {t : Text} (single : '$' ∉ t.head?) :
    sigil ('$' :: t) =
      ⟨nameKind (t.takeWhile isNameChar), '$' :: t.takeWhile isNameChar,
        t.dropWhile isNameChar⟩ := by
  unfold sigil
  split
  · next double => simp_all
  · next eq => cases eq
  · next c u _ eq =>
    obtain ⟨rfl, rfl⟩ := List.cons.inj eq
    rfl

/-- The kind of a bare word. -/
def wordKind (letters : Text) : Kind :=
  if isWordOperator letters then .operator else if isKeyword letters then .keyword else .field

theorem word_eq (t : Text) :
    word t = ⟨wordKind (t.takeWhile isWordChar), t.takeWhile isWordChar,
      t.dropWhile isWordChar⟩ := rfl

/-! ## A lexeme by itself -/

theorem unextending_of_ends {rest : Text} (h : Ends rest) : Decimal.Unextending rest := by
  intro c hc
  have blank := h c hc
  have name := isNameChar_of_isBlank blank
  refine ⟨?_, ?_, ?_, ?_⟩
  · cases digit : c.isDigit with
    | false => rfl
    | true => simp [isNameChar_of_isDigit digit] at name
  · rintro rfl; contradiction
  · rintro rfl; contradiction
  · rintro rfl; contradiction

theorem symbol_ends {c : Char} {rest : Text} (listed : isSymbol c = true) (ends : Ends rest) :
    first c rest = ⟨.operator, [c], rest⟩ := by
  apply first_symbol listed
  -- the second character of an operator is a symbol, not a blank
  intro op member front
  obtain ⟨a, b, eq, -, second⟩ := pairs_shape member
  rw [eq, List.cons_prefix_cons] at front
  obtain ⟨more, rfl⟩ := front.2
  have blank := ends b rfl
  simp [(symbol_alone second).2.2.2.2.2] at blank

theorem sigil_ends {name rest : Text} (inside : ∀ c ∈ name, isNameChar c = true)
    (ends : Ends rest) :
    first '$' (name ++ rest) = ⟨nameKind name, '$' :: name, rest⟩ := by
  have stop : ∀ c ∈ rest.head?, isNameChar c = false := fun c hc =>
    isNameChar_of_isBlank (ends c hc)
  have single : '$' ∉ (name ++ rest).head? := by
    intro double
    cases name with
    | nil => exact absurd (ends _ double) (by decide)
    | cons d more => exact absurd (inside '$' (by simp_all)) (by decide)
  rw [first_sigil, sigil_single single, takeWhile_run inside stop, dropWhile_run inside stop]

theorem word_ends {letters rest : Text} (inside : ∀ c ∈ letters, isWordChar c = true)
    (ends : Ends rest) : word (letters ++ rest) = ⟨wordKind letters, letters, rest⟩ := by
  have stop : ∀ c ∈ rest.head?, isWordChar c = false := by
    intro c hc
    have name := isNameChar_of_isBlank (ends c hc)
    cases letter : isWordChar c with
    | false => rfl
    | true => simp [isNameChar_of_isWordChar letter] at name
  rw [word_eq, takeWhile_run inside stop, dropWhile_run inside stop]

/-- A lexeme is cut again as it was where nothing or a blank follows. An open string would go on
through the blank. -/
theorem first_recut (c : Char) (t : Text) {rest : Text} (ends : Ends rest)
    (closed : (first c t).kind = .badString → rest = []) :
    ∃ body, (first c t).taken = c :: body ∧
      first c (body ++ rest) = ⟨(first c t).kind, c :: body, rest⟩ := by
  cases opening c t with
  | pair op left listed front =>
    obtain ⟨a, b, eq, -⟩ := pairs_shape listed
    obtain rfl : c = a := by simp_all
    have again : c :: ([b] ++ rest) = op.toList ++ rest := by simp [eq]
    refine ⟨[b], by simp [first_pair listed front, eq], ?_⟩
    rw [first_pair listed again, first_pair listed front, eq]
  | symbol listed alone =>
    refine ⟨[], by rw [first_symbol listed alone], ?_⟩
    rw [first_symbol listed alone]
    exact symbol_ends listed ends
  | quote listed =>
    rw [first_quote t listed] at closed ⊢
    by_cases again : c ∈ t
    · obtain ⟨body, left, rfl, inside⟩ := List.eq_append_cons_of_mem again
      refine ⟨body ++ [c], by rw [delimited_closed c left inside], ?_⟩
      rw [first_quote _ listed, delimited_closed c left inside, List.append_assoc]
      exact delimited_closed c rest inside
    · rw [delimited_open c again] at closed ⊢
      obtain rfl := closed rfl
      exact ⟨t, rfl, by rw [List.append_nil, first_quote t listed, delimited_open c again]⟩
  | digit listed =>
    obtain ⟨l, left, read, cut⟩ := number_digit t listed
    obtain ⟨d, body, text⟩ := List.exists_cons_of_ne_nil (Decimal.Literal.read?_text_ne_nil read)
    have whole := Decimal.Literal.read?_append read
    rw [text, List.cons_append, List.cons.injEq] at whole
    obtain rfl := whole.1
    refine ⟨body, by rw [first_digit t listed, cut, text], ?_⟩
    rw [first_digit _ listed, first_digit t listed, cut, ← List.cons_append, ← text]
    exact number_text (Decimal.read?_wellFormed read) (unextending_of_ends ends)
  | sigil listed =>
    subst listed
    by_cases double : '$' ∈ t.head?
    · obtain ⟨left, rfl⟩ := List.head?_eq_some_iff.1 double
      exact ⟨['$'], rfl, rfl⟩
    · have cut := (first_sigil t).trans (sigil_single double)
      refine ⟨t.takeWhile isNameChar, by rw [cut], ?_⟩
      rw [cut]
      exact sigil_ends (fun _ => List.mem_takeWhile_imp) ends
  | letter listed =>
    have letters : (c :: t).takeWhile isWordChar = c :: t.takeWhile isWordChar := by simp [listed]
    have cut := (first_letter t listed).trans (word_eq (c :: t))
    refine ⟨t.takeWhile isWordChar, by rw [cut, letters], ?_⟩
    rw [cut, first_letter _ listed, ← List.cons_append, ← letters]
    exact word_ends (fun _ => List.mem_takeWhile_imp) ends
  | stray unlisted =>
    refine ⟨[], by rw [first_stray t unlisted], ?_⟩
    rw [first_stray t unlisted]
    exact first_stray rest unlisted

end Cut

end QueryInk

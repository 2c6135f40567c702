import QueryInk.Proofs.Token.Alphabet
import QueryInk.Proofs.Token.Number

/-! The lexical grammar. It gives no order in which to try its cases: each says in full when it
applies, and runs and literals are longest matches in a language. A text that does not start with
a blank has one lexeme, the one that the rules cut (`lexeme_iff`). -/

namespace QueryInk.Token
open Alphabet Computability Text Decimal

/-- The lexeme at the front of a text, with its kind. -/
inductive Lexeme : Text → Kind → Text → Prop
  | pair {op rest : Text} (listed : op ∈ pairs) : Lexeme (op ++ rest) .operator op
  | symbol {c : Char} {rest : Text} (listed : c ∈ symbols)
      (alone : ∀ op ∈ pairs, ¬ op <+: c :: rest) : Lexeme (c :: rest) .operator [c]
  | closed {q : Char} {body rest : Text} (quote : q ∈ quotes) (inside : q ∉ body) :
      Lexeme (q :: (body ++ q :: rest)) .string (q :: (body ++ [q]))
  | unclosed {q : Char} {body : Text} (quote : q ∈ quotes) (inside : q ∉ body) :
      Lexeme (q :: body) .badString (q :: body)
  | number {c : Char} {rest w : Text} {v : ℚ} (digit : c.isDigit = true)
      (longest : Longest unsignedWords (c :: rest) w) (value : Denotes w v)
      (small : |v| < 2 ^ 1024 - 2 ^ 970) : Lexeme (c :: rest) .number w
  | badNumber {c : Char} {rest w : Text} {v : ℚ} (digit : c.isDigit = true)
      (longest : Longest unsignedWords (c :: rest) w) (value : Denotes w v)
      (large : 2 ^ 1024 - 2 ^ 970 ≤ |v|) : Lexeme (c :: rest) .badNumber w
  | root {rest : Text} : Lexeme ('$' :: '$' :: rest) .builtin ['$', '$']
  | builtin {rest name : Text} (single : '$' ∉ rest.head?)
      (longest : Longest nameWords rest name) (known : name = [] ∨ String.ofList name ∈ functions) :
      Lexeme ('$' :: rest) .builtin ('$' :: name)
  | var {rest name : Text} (single : '$' ∉ rest.head?)
      (longest : Longest nameWords rest name)
      (unknown : name ≠ [] ∧ String.ofList name ∉ functions) :
      Lexeme ('$' :: rest) .var ('$' :: name)
  | wordOperator {c : Char} {rest w : Text} (letter : c ∈ letters)
      (longest : Longest bareWords (c :: rest) w) (listed : String.ofList w ∈ wordOperators) :
      Lexeme (c :: rest) .operator w
  | keyword {c : Char} {rest w : Text} (letter : c ∈ letters)
      (longest : Longest bareWords (c :: rest) w) (listed : String.ofList w ∈ keywords) :
      Lexeme (c :: rest) .keyword w
  | field {c : Char} {rest w : Text} (letter : c ∈ letters)
      (longest : Longest bareWords (c :: rest) w)
      (unlisted : String.ofList w ∉ wordOperators ∧ String.ofList w ∉ keywords) :
      Lexeme (c :: rest) .field w
  | stray {c : Char} {rest : Text} (solid : c.toNat ∉ blanks) (noSymbol : c ∉ symbols)
      (noQuote : c ∉ quotes) (noDigit : c.isDigit = false) (noSigil : c ≠ '$')
      (noLetter : c ∉ letters) : Lexeme (c :: rest) .stray [c]

/-! ## The kinds of names and words -/

theorem nameKind_builtin {name : Text} (known : name = [] ∨ String.ofList name ∈ functions) :
    Cut.nameKind name = .builtin := by
  rw [← isFunction_iff] at known
  unfold Cut.nameKind
  rw [if_pos]
  simpa using known

theorem nameKind_var {name : Text} (unknown : name ≠ [] ∧ String.ofList name ∉ functions) :
    Cut.nameKind name = .var := by
  rw [← isFunction_iff] at unknown
  unfold Cut.nameKind
  rw [if_neg]
  simpa using unknown

theorem wordKind_operator {w : Text} (listed : String.ofList w ∈ wordOperators) :
    Cut.wordKind w = .operator :=
  if_pos (isWordOperator_iff.2 listed)

theorem wordKind_keyword {w : Text} (listed : String.ofList w ∈ keywords) :
    Cut.wordKind w = .keyword := by
  have apart : ∀ word ∈ keywords, word ∉ wordOperators := by decide
  have unlisted := apart _ listed
  rw [← isWordOperator_iff] at unlisted
  exact (if_neg unlisted).trans (if_pos (isKeyword_iff.2 listed))

theorem wordKind_field {w : Text}
    (unlisted : String.ofList w ∉ wordOperators ∧ String.ofList w ∉ keywords) :
    Cut.wordKind w = .field := by
  rw [← isWordOperator_iff, ← isKeyword_iff] at unlisted
  exact (if_neg unlisted.1).trans (if_neg unlisted.2)

/-! ## What is cut is a lexeme -/

theorem lexeme_quoted {q : Char} (t : Text) (quote : q ∈ quotes) :
    Lexeme (q :: t) (Cut.delimited q (q :: t)).kind (Cut.delimited q (q :: t)).taken := by
  by_cases again : q ∈ t
  · obtain ⟨body, rest, rfl, inside⟩ := List.eq_append_cons_of_mem again
    rw [Cut.delimited_closed q rest inside]
    exact .closed quote inside
  · rw [Cut.delimited_open q again]
    exact .unclosed quote again

theorem lexeme_literal {c : Char} (t : Text) (digit : c.isDigit = true) :
    Lexeme (c :: t) (Cut.number (c :: t)).kind (Cut.number (c :: t)).taken := by
  obtain ⟨l, rest, read, cut⟩ := Cut.number_digit t digit
  have wf := read?_wellFormed read
  have longest := (longest_unsigned digit).2 (read?_longest read)
  have value := (denotes_text wf).2 rfl
  rw [cut]
  rcases lt_or_ge |l.value| (2 ^ 1024 - 2 ^ 970) with small | large
  · rw [(literalKind_number wf).2 small]
    exact .number digit longest value small
  · rw [(literalKind_badNumber wf).2 large]
    exact .badNumber digit longest value large

theorem lexeme_name (t : Text) :
    Lexeme ('$' :: t) (Cut.sigil ('$' :: t)).kind (Cut.sigil ('$' :: t)).taken := by
  by_cases double : '$' ∈ t.head?
  · obtain ⟨rest, rfl⟩ := List.head?_eq_some_iff.1 double
    exact .root
  · rw [Cut.sigil_single double]
    have longest := longest_takeWhile isNameChar t
    rw [← nameWords_eq] at longest
    by_cases known : t.takeWhile isNameChar = [] ∨ String.ofList (t.takeWhile isNameChar) ∈ functions
    · rw [nameKind_builtin known]
      exact .builtin double longest known
    · rw [not_or] at known
      rw [nameKind_var known]
      exact .var double longest known

theorem lexeme_word {c : Char} (t : Text) (letter : c ∈ letters) :
    Lexeme (c :: t) (Cut.word (c :: t)).kind (Cut.word (c :: t)).taken := by
  have longest := longest_takeWhile isWordChar (c :: t)
  rw [← bareWords_eq] at longest
  rw [Cut.word_eq]
  by_cases operator : String.ofList ((c :: t).takeWhile isWordChar) ∈ wordOperators
  · rw [wordKind_operator operator]
    exact .wordOperator letter longest operator
  by_cases keyword : String.ofList ((c :: t).takeWhile isWordChar) ∈ keywords
  · rw [wordKind_keyword keyword]
    exact .keyword letter longest keyword
  · rw [wordKind_field ⟨operator, keyword⟩]
    exact .field letter longest ⟨operator, keyword⟩

theorem lexeme_first {c : Char} (t : Text) (solid : isBlank c = false) :
    Lexeme (c :: t) (Cut.first c t).kind (Cut.first c t).taken := by
  cases Cut.opening c t with
  | pair op rest listed front =>
    rw [Cut.first_pair listed front, front]
    exact .pair (mem_pairs.2 ⟨op, listed, rfl⟩)
  | symbol listed alone =>
    rw [Cut.first_symbol listed alone]
    exact .symbol (isSymbol_iff.1 listed) (forall_pairs.2 alone)
  | quote listed =>
    rw [Cut.first_quote t listed]
    exact lexeme_quoted t (mem_quotes.2 listed)
  | digit listed =>
    rw [Cut.first_digit t listed]
    exact lexeme_literal t listed
  | sigil listed =>
    subst listed
    rw [Cut.first_sigil]
    exact lexeme_name t
  | letter listed =>
    rw [Cut.first_letter t listed]
    exact lexeme_word t ((isWordChar_iff c).1 listed)
  | stray unlisted =>
    rw [Cut.first_stray t unlisted]
    obtain ⟨noSymbol, noQuote, noTick, noDigit, noSigil, noLetter⟩ := unlisted
    refine .stray ?_ ?_ ?_ noDigit noSigil ?_
    · simp [← isBlank_iff, solid]
    · simp [← isSymbol_iff, noSymbol]
    · simp [mem_quotes, noQuote, noTick]
    · simp [← isWordChar_iff, noLetter]

/-! ## A lexeme is what is cut -/

theorem number_of_longest {c : Char} {t w : Text} {v : ℚ} (digit : c.isDigit = true)
    (longest : Longest unsignedWords (c :: t) w) (value : Denotes w v) :
    ∃ l, l.WellFormed ∧ l.value = v ∧ (Cut.first c t).kind = Cut.literalKind l ∧
      (Cut.first c t).taken = w := by
  obtain ⟨l, rest, read, cut⟩ := Cut.number_digit t digit
  obtain rfl := (read?_longest read).unique ((longest_unsigned digit).1 longest)
  have wf := read?_wellFormed read
  rw [Cut.first_digit t digit, cut]
  exact ⟨l, wf, ((denotes_text wf).1 value).symm, rfl, rfl⟩

theorem name_of_longest {t name : Text} (single : '$' ∉ t.head?)
    (longest : Longest nameWords t name) :
    (Cut.first '$' t).kind = Cut.nameKind name ∧ (Cut.first '$' t).taken = '$' :: name := by
  rw [nameWords_eq] at longest
  obtain rfl := (longest_takeWhile isNameChar t).unique longest
  rw [Cut.first_sigil, Cut.sigil_single single]
  exact ⟨rfl, rfl⟩

theorem word_of_longest {c : Char} {t w : Text} (letter : c ∈ letters)
    (longest : Longest bareWords (c :: t) w) :
    (Cut.first c t).kind = Cut.wordKind w ∧ (Cut.first c t).taken = w := by
  rw [bareWords_eq] at longest
  obtain rfl := (longest_takeWhile isWordChar (c :: t)).unique longest
  rw [Cut.first_letter t ((isWordChar_iff c).2 letter), Cut.word_eq]
  exact ⟨rfl, rfl⟩

theorem first_of_lexeme {c : Char} {r t w : Text} {kind : Kind} (h : Lexeme r kind w)
    (front : r = c :: t) : (Cut.first c t).kind = kind ∧ (Cut.first c t).taken = w := by
  cases h with
  | pair listed =>
    obtain ⟨op, member, rfl⟩ := mem_pairs.1 listed
    rw [Cut.first_pair member front.symm]
    exact ⟨rfl, rfl⟩
  | symbol listed alone =>
    obtain ⟨rfl, rfl⟩ := List.cons.inj front
    rw [Cut.first_symbol (isSymbol_iff.2 listed) (forall_pairs.1 alone)]
    exact ⟨rfl, rfl⟩
  | closed quote inside =>
    obtain ⟨rfl, rfl⟩ := List.cons.inj front
    rw [Cut.first_quote _ (mem_quotes.1 quote), Cut.delimited_closed _ _ inside]
    exact ⟨rfl, rfl⟩
  | unclosed quote inside =>
    obtain ⟨rfl, rfl⟩ := List.cons.inj front
    rw [Cut.first_quote _ (mem_quotes.1 quote), Cut.delimited_open _ inside]
    exact ⟨rfl, rfl⟩
  | number digit longest value small =>
    obtain ⟨rfl, rfl⟩ := List.cons.inj front
    obtain ⟨l, wf, rfl, kind, taken⟩ := number_of_longest digit longest value
    exact ⟨kind.trans ((literalKind_number wf).2 small), taken⟩
  | badNumber digit longest value large =>
    obtain ⟨rfl, rfl⟩ := List.cons.inj front
    obtain ⟨l, wf, rfl, kind, taken⟩ := number_of_longest digit longest value
    exact ⟨kind.trans ((literalKind_badNumber wf).2 large), taken⟩
  | root =>
    obtain ⟨rfl, rfl⟩ := List.cons.inj front
    exact ⟨rfl, rfl⟩
  | builtin single longest known =>
    obtain ⟨rfl, rfl⟩ := List.cons.inj front
    obtain ⟨kind, taken⟩ := name_of_longest single longest
    exact ⟨kind.trans (nameKind_builtin known), taken⟩
  | var single longest unknown =>
    obtain ⟨rfl, rfl⟩ := List.cons.inj front
    obtain ⟨kind, taken⟩ := name_of_longest single longest
    exact ⟨kind.trans (nameKind_var unknown), taken⟩
  | wordOperator letter longest listed =>
    obtain ⟨rfl, rfl⟩ := List.cons.inj front
    obtain ⟨kind, taken⟩ := word_of_longest letter longest
    exact ⟨kind.trans (wordKind_operator listed), taken⟩
  | keyword letter longest listed =>
    obtain ⟨rfl, rfl⟩ := List.cons.inj front
    obtain ⟨kind, taken⟩ := word_of_longest letter longest
    exact ⟨kind.trans (wordKind_keyword listed), taken⟩
  | field letter longest unlisted =>
    obtain ⟨rfl, rfl⟩ := List.cons.inj front
    obtain ⟨kind, taken⟩ := word_of_longest letter longest
    exact ⟨kind.trans (wordKind_field unlisted), taken⟩
  | stray solid noSymbol noQuote noDigit noSigil noLetter =>
    obtain ⟨rfl, rfl⟩ := List.cons.inj front
    rw [← isSymbol_iff, Bool.not_eq_true] at noSymbol
    rw [mem_quotes, not_or, Bool.not_eq_true] at noQuote
    rw [← isWordChar_iff, Bool.not_eq_true] at noLetter
    rw [Cut.first_stray _ ⟨noSymbol, noQuote.1, noQuote.2, noDigit, noSigil, noLetter⟩]
    exact ⟨rfl, rfl⟩

theorem lexeme_iff {c : Char} {t w : Text} {kind : Kind} (solid : isBlank c = false) :
    Lexeme (c :: t) kind w ↔ kind = (Cut.first c t).kind ∧ w = (Cut.first c t).taken := by
  constructor
  · intro h
    obtain ⟨same, taken⟩ := first_of_lexeme h rfl
    exact ⟨same.symm, taken.symm⟩
  · rintro ⟨rfl, rfl⟩
    exact lexeme_first t solid

/-- A token that the grammar allows at byte `p` of `line`. -/
def Allowed (line : Text) (p : Nat) (token : Token) : Prop :=
  token.span.start = p ∧ ∃ w, token.span.text? line = some w ∧
    Lexeme (dropBytes p line) token.kind w

/-- At a character that is not blank the scanner reads the one token that is allowed there. -/
theorem scan_lexeme {line : Text} {p : Nat} {c : Char} {r : Text}
    (boundary : isBoundary line p = true) (here : dropBytes p line = c :: r)
    (solid : c.toNat ∉ blanks) :
    ∃ token, scan line p = some token ∧ Allowed line p token ∧
      ∀ other, Allowed line p other → other = token := by
  rw [← isBlank_iff, Bool.not_eq_true] at solid
  obtain ⟨before, after, rfl, rfl⟩ := isBoundary_iff.1 boundary
  rw [dropBytes_width] at here
  subst here
  refine ⟨(Cut.first c r).token (width before), ?_, ?_, ?_⟩
  · rw [scan_eq_head?, snap_width, dropBytes_width, streamFrom_solid r solid]
    rfl
  · refine ⟨rfl, (Cut.first c r).taken, text?_of_cut before c r, ?_⟩
    rw [dropBytes_width]
    exact lexeme_first r solid
  · rintro ⟨kind, start, stop⟩ ⟨rfl, w, text, lexeme⟩
    rw [dropBytes_width, lexeme_iff solid] at lexeme
    obtain ⟨rfl, rfl⟩ := lexeme
    obtain ⟨_, _, _, begins, ends⟩ := cuts_of_slice? text
    simp only at begins ends
    rw [Cut.token, ends, ← begins]

/-- The exponent has no digit, so the literal is its first digit. -/
theorem scan_lexeme_digit :
    isBoundary "é1e+".toList 2 = true ∧ dropBytes 2 "é1e+".toList = ['1', 'e', '+'] ∧
      '1'.toNat ∉ blanks ∧ scan "é1e+".toList 2 = some ⟨.number, 2, 3⟩ ∧
      Allowed "é1e+".toList 2 ⟨.number, 2, 3⟩ ∧
      ∀ other, Allowed "é1e+".toList 2 other → other = ⟨.number, 2, 3⟩ := by
  have boundary : isBoundary "é1e+".toList 2 = true := by decide
  have here : dropBytes 2 "é1e+".toList = ['1', 'e', '+'] := by decide
  have solid : '1'.toNat ∉ blanks := by decide
  have found : scan "é1e+".toList 2 = some ⟨.number, 2, 3⟩ := by decide +kernel
  obtain ⟨token, same, allowed, only⟩ := scan_lexeme boundary here solid
  obtain rfl := Option.some.inj (found.symm.trans same)
  exact ⟨boundary, here, solid, found, allowed, only⟩

end QueryInk.Token

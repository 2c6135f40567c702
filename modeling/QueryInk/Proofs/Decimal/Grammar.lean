import QueryInk.Decimal.Literal
import QueryInk.Proofs.Text.Longest

/-!
# The language of literals

`literalWords` is the language `-?(0|[1-9][0-9]*)(\.[0-9]+)?([Ee][-+]?[0-9]+)?`,
written as such. A well-formed literal is read back, whatever follows, unless that
could go on with it (`read?_text`), and what is read is the longest text of the
language at the front (`read?_longest`).
-/

namespace QueryInk.Decimal
open Computability Text

/-- `[0-9]+` -/
def digitWords : Language Char := oneOf Char.isDigit * (oneOf Char.isDigit)∗

/-- `0|[1-9][0-9]*` -/
def wholeWords : Language Char :=
  {['0']} + oneOf (fun c => c.isDigit && c != '0') * (oneOf Char.isDigit)∗

/-- `(\.[0-9]+)?` -/
def fractionWords : Language Char := 1 + {['.']} * digitWords

/-- `([Ee][-+]?[0-9]+)?` -/
def exponentWords : Language Char :=
  1 + oneOf (fun c => c == 'e' || c == 'E') *
    ((1 + oneOf fun c => c == '-' || c == '+') * digitWords)

def unsignedWords : Language Char := wholeWords * (fractionWords * exponentWords)

def literalWords : Language Char := (1 + {['-']}) * unsignedWords

structure Exponent.WellFormed (e : Exponent) : Prop where
  mark : e.mark = 'e' ∨ e.mark = 'E'
  sign : ∀ c ∈ e.sign, c = '-' ∨ c = '+'
  digits : e.digits ∈ digitWords

structure Literal.WellFormed (l : Literal) : Prop where
  whole : l.whole ∈ wholeWords
  fraction : ∀ c ∈ l.fraction, c.isDigit = true
  exponent : ∀ e ∈ l.exponent, e.WellFormed

theorem isDigit_iff {c : Char} : c.isDigit = true ↔ 48 ≤ c.toNat ∧ c.toNat ≤ 57 := by
  simp [Char.isDigit, UInt32.le_iff_toNat_le]

theorem mem_digitWords {w : Text} :
    w ∈ digitWords ↔ w ≠ [] ∧ ∀ c ∈ w, c.isDigit = true := mem_some_run

theorem mem_wholeWords {w : Text} :
    w ∈ wholeWords ↔ w = ['0'] ∨
      ∃ c more, w = c :: more ∧ c.isDigit = true ∧ c ≠ '0' ∧ ∀ d ∈ more, d.isDigit = true := by
  simp only [wholeWords, Language.mem_add, Language.mem_mul, mem_oneOf, mem_run,
    Bool.and_eq_true, bne_iff_ne]
  constructor
  · rintro (zero | ⟨_, ⟨c, ⟨hc, hz⟩, rfl⟩, more, all, rfl⟩)
    · exact .inl zero
    · exact .inr ⟨c, more, rfl, hc, hz, all⟩
  · rintro (zero | ⟨c, more, rfl, hc, hz, all⟩)
    · exact .inl zero
    · exact .inr ⟨[c], ⟨c, ⟨hc, hz⟩, rfl⟩, more, all, rfl⟩

theorem digits_of_whole {w : Text} (h : w ∈ wholeWords) : ∀ c ∈ w, c.isDigit = true := by
  rcases mem_wholeWords.1 h with rfl | ⟨c, more, rfl, hc, -, all⟩
  · simp
  · simpa [hc] using all

theorem mem_fractionWords {w : Text} :
    w ∈ fractionWords ↔ ∃ f : Text, (∀ c ∈ f, c.isDigit = true) ∧
      w = if f.isEmpty then [] else '.' :: f := by
  simp only [fractionWords, Language.mem_add, Language.mem_one, Language.mem_mul, mem_digitWords]
  constructor
  · rintro (rfl | ⟨_, rfl, f, ⟨hne, all⟩, rfl⟩)
    · exact ⟨[], by simp, rfl⟩
    · exact ⟨f, all, by simp [hne]⟩
  · rintro ⟨f, all, rfl⟩
    cases f with
    | nil => exact .inl rfl
    | cons c f => exact .inr ⟨['.'], rfl, c :: f, ⟨by simp, all⟩, rfl⟩

theorem mem_exponentWords {w : Text} :
    w ∈ exponentWords ↔ ∃ e : Option Exponent, (∀ x ∈ e, x.WellFormed) ∧
      w = (e.map Exponent.text).getD [] := by
  simp only [exponentWords, Language.mem_add, Language.mem_one, Language.mem_mul, mem_oneOf,
    Bool.or_eq_true, beq_iff_eq]
  constructor
  · rintro (rfl | ⟨_, ⟨m, hm, rfl⟩, _, ⟨_, (rfl | ⟨s, hs, rfl⟩), ds, hds, rfl⟩, rfl⟩)
    · exact ⟨none, by simp, rfl⟩
    · exact ⟨some ⟨m, none, ds⟩, by rintro _ ⟨⟩; exact ⟨hm, by simp, hds⟩, rfl⟩
    · exact ⟨some ⟨m, some s, ds⟩, by rintro _ ⟨⟩; exact ⟨hm, by simpa using hs, hds⟩, rfl⟩
  · rintro ⟨e, wf, rfl⟩
    cases e with
    | none => exact .inl rfl
    | some e =>
      obtain ⟨hm, hs, hds⟩ := wf e rfl
      refine .inr ⟨[e.mark], ⟨e.mark, hm, rfl⟩, _, ⟨e.sign.toList, ?_, e.digits, hds, rfl⟩, rfl⟩
      cases sign : e.sign with
      | none => exact .inl rfl
      | some c => exact .inr ⟨c, hs c sign, rfl⟩

/-- Where a digit comes first, the sign is left out. -/
theorem mem_unsignedWords {c : Char} {t w : Text} (digit : c.isDigit = true) (front : w <+: c :: t) :
    w ∈ unsignedWords ↔ w ∈ literalWords := by
  simp only [literalWords, Language.mem_mul, Language.mem_add, Language.mem_one]
  constructor
  · intro h
    exact ⟨[], .inl rfl, w, h, rfl⟩
  · rintro ⟨_, rfl | rfl, v, h, rfl⟩
    · exact h
    · obtain ⟨rfl, -⟩ := List.cons_prefix_cons.1 front
      contradiction

theorem longest_unsigned {c : Char} {t w : Text} (digit : c.isDigit = true) :
    Longest unsignedWords (c :: t) w ↔ Longest literalWords (c :: t) w := by
  constructor
  · rintro ⟨front, mem, longest⟩
    exact ⟨front, (mem_unsignedWords digit front).1 mem, fun v hv hm =>
      longest v hv ((mem_unsignedWords digit hv).2 hm)⟩
  · rintro ⟨front, mem, longest⟩
    exact ⟨front, (mem_unsignedWords digit front).2 mem, fun v hv hm =>
      longest v hv ((mem_unsignedWords digit hv).1 hm)⟩

/-- A text of the language is a well-formed literal written down. -/
theorem mem_literalWords {w : Text} :
    w ∈ literalWords ↔ ∃ l : Literal, l.WellFormed ∧ l.text = w := by
  simp only [literalWords, unsignedWords, Language.mem_mul, Language.mem_add, Language.mem_one,
    mem_fractionWords, mem_exponentWords]
  constructor
  · rintro ⟨_, minus, _, ⟨whole, hw, _, ⟨_, ⟨f, hf, rfl⟩, _, ⟨e, he, rfl⟩, rfl⟩, rfl⟩, rfl⟩
    rcases minus with rfl | rfl
    · exact ⟨⟨false, whole, f, e⟩, ⟨hw, hf, he⟩, by simp [Literal.text]⟩
    · exact ⟨⟨true, whole, f, e⟩, ⟨hw, hf, he⟩, by simp [Literal.text]⟩
  · rintro ⟨l, ⟨hw, hf, he⟩, rfl⟩
    refine ⟨if l.negative then ['-'] else [], ?_, _,
      ⟨l.whole, hw, _, ⟨_, ⟨l.fraction, hf, rfl⟩, _, ⟨l.exponent, he, rfl⟩, rfl⟩, rfl⟩, ?_⟩
    · cases l.negative
      · exact .inl rfl
      · exact .inr rfl
    · simp [Literal.text]

/-- A literal is written with digits and five other characters. -/
theorem mem_text {l : Literal} {c : Char} (h : l.WellFormed) (inside : c ∈ l.text) :
    c.isDigit = true ∨ c ∈ ['-', '.', 'e', 'E', '+'] := by
  simp only [Literal.text, List.mem_append, or_assoc] at inside
  rcases inside with minus | whole | fraction | exponent
  · have : c = '-' := by
      split at minus <;> simp_all
    simp [this]
  · exact .inl (digits_of_whole h.whole c whole)
  · split at fraction
    · simp at fraction
    · rcases List.mem_cons.1 fraction with rfl | digit
      · simp
      · exact .inl (h.fraction c digit)
  · cases he : l.exponent with
    | none => simp [he] at exponent
    | some e =>
      have wf := h.exponent e he
      simp only [he, Option.map_some, Option.getD_some, Exponent.text, List.mem_cons,
        List.mem_append, Option.mem_toList] at exponent
      rcases exponent with rfl | sign | digit
      · rcases wf.mark with mark | mark <;> simp [mark]
      · rcases wf.sign c sign with rfl | rfl <;> simp
      · exact .inl ((mem_digitWords.1 wf.digits).2 c digit)

/-! ## The readers on texts of the language -/

theorem digits_run {run : Text} (rest : Text) (h : ∀ c ∈ run, c.isDigit = true) :
    digits (run ++ rest) = run ++ digits rest ∧ afterDigits (run ++ rest) = afterDigits rest :=
  ⟨List.takeWhile_append_of_pos h, List.dropWhile_append_of_pos h⟩

theorem digits_stop {rest : Text} (h : ∀ c ∈ rest.head?, c.isDigit = false) :
    digits rest = [] ∧ afterDigits rest = rest := by
  cases rest with
  | nil => exact ⟨rfl, rfl⟩
  | cons c rest => simp [digits, afterDigits, h c rfl]

theorem readMinus_text {t : Text} (negative : Bool) (h : '-' ∉ t.head?) :
    readMinus ((if negative then ['-'] else []) ++ t) = (negative, t) := by
  cases negative with
  | true => rfl
  | false =>
    simp only [readMinus, Bool.false_eq_true, ↓reduceIte, List.nil_append]
    split
    · simp at h
    · rfl

theorem isDigit_of_head_whole {whole rest : Text} (h : whole ∈ wholeWords) :
    ∃ c ∈ (whole ++ rest).head?, c.isDigit = true := by
  rcases mem_wholeWords.1 h with rfl | ⟨c, more, rfl, hc, -, -⟩
  · exact ⟨'0', rfl, rfl⟩
  · exact ⟨c, rfl, hc⟩

/-- A whole part is read with the digits that go on with it. -/
theorem readWhole?_whole {whole : Text} (rest : Text) (h : whole ∈ wholeWords) :
    ∃ more left, readWhole? (whole ++ rest) = some (whole ++ more, left) ∧ more ++ left = rest := by
  rcases mem_wholeWords.1 h with rfl | ⟨c, more, rfl, hc, hz, all⟩
  · exact ⟨[], rest, rfl, rfl⟩
  · refine ⟨digits rest, afterDigits rest, ?_, digits_append rest⟩
    simp [readWhole?, hc, hz, digits_run rest all]

theorem readWhole?_stop {whole rest : Text} (h : whole ∈ wholeWords)
    (stop : ∀ c ∈ rest.head?, c.isDigit = false) :
    readWhole? (whole ++ rest) = some (whole, rest) := by
  rcases mem_wholeWords.1 h with rfl | ⟨c, more, rfl, hc, hz, all⟩
  · rfl
  · simp [readWhole?, hc, hz, digits_run rest all, digits_stop stop]

theorem readFraction_none {t : Text} (h : '.' ∉ t.head?) : readFraction t = ([], t) := by
  unfold readFraction
  split
  · simp at h
  · rfl

theorem readFraction_some {fraction : Text} (rest : Text) (hne : fraction ≠ [])
    (h : ∀ c ∈ fraction, c.isDigit = true) :
    readFraction ('.' :: (fraction ++ rest)) = (fraction ++ digits rest, afterDigits rest) := by
  simp [readFraction, digits_run rest h, hne]

theorem readExponent_none {t : Text} (h : ∀ c ∈ t.head?, c ≠ 'e' ∧ c ≠ 'E') :
    readExponent t = (none, t) := by
  cases t with
  | nil => rfl
  | cons c t => simp [readExponent, h c rfl]

theorem readSign_text {ds : Text} (sign : Option Char) (hs : ∀ c ∈ sign, c = '-' ∨ c = '+')
    (hd : ∀ c ∈ ds.head?, c.isDigit = true) : readSign (sign.toList ++ ds) = (sign, ds) := by
  cases sign with
  | some c => rcases hs c rfl with rfl | rfl <;> rfl
  | none =>
    simp only [Option.toList_none, List.nil_append]
    unfold readSign
    split
    · exact absurd (hd '+' rfl) (by decide)
    · exact absurd (hd '-' rfl) (by decide)
    · rfl

theorem readExponent_some {e : Exponent} (rest : Text) (h : e.WellFormed) :
    readExponent (e.text ++ rest) =
      (some { e with digits := e.digits ++ digits rest }, afterDigits rest) := by
  obtain ⟨hne, all⟩ := mem_digitWords.1 h.digits
  have sign : readSign (e.sign.toList ++ (e.digits ++ rest)) = (e.sign, e.digits ++ rest) := by
    apply readSign_text e.sign h.sign
    obtain ⟨c, more, eq⟩ := List.exists_cons_of_ne_nil hne
    intro d hd
    rw [eq, List.cons_append, List.head?_cons, Option.mem_some_iff] at hd
    exact all d (by simp [eq, hd])
  simp [Exponent.text, readExponent, h.mark, sign, digits_run rest all, hne]

theorem read?_eq {t u v x y whole fraction : Text} {negative : Bool} {exponent : Option Exponent}
    (hm : readMinus t = (negative, u)) (hw : readWhole? u = some (whole, v))
    (hf : readFraction v = (fraction, x)) (he : readExponent x = (exponent, y)) :
    Literal.read? t = some (⟨negative, whole, fraction, exponent⟩, y) := by
  simp [Literal.read?, hm, hw, hf, he]

/-- The text of a literal as its reader comes upon it. -/
theorem readMinus_literal {l : Literal} (rest : Text) (h : l.WellFormed) :
    readMinus (l.text ++ rest) = (l.negative,
      l.whole ++ ((if l.fraction.isEmpty then [] else '.' :: l.fraction) ++
        ((l.exponent.map Exponent.text).getD [] ++ rest))) := by
  simp only [Literal.text, List.append_assoc]
  apply readMinus_text
  intro minus
  obtain ⟨c, hc, hd⟩ := isDigit_of_head_whole h.whole
  rw [Option.mem_unique hc minus] at hd
  exact absurd hd (by decide)

/-! What follows the digits of an exponent, a fraction or a whole part is read as more of the
same digits. The three lemmas differ in which part comes last. -/

theorem read?_exponent {l : Literal} {e : Exponent} (rest : Text) (h : l.WellFormed)
    (he : l.exponent = some e) :
    Literal.read? (l.text ++ rest) =
      some ({ l with exponent := some { e with digits := e.digits ++ digits rest } },
        afterDigits rest) := by
  have wf := h.exponent e he
  have mark : ∀ c ∈ (e.text ++ rest).head?, c.isDigit = false ∧ c ≠ '.' := by
    rintro c ⟨⟩
    rcases wf.mark with mark | mark <;> simp [mark]
  have minus := readMinus_literal rest h
  rw [he] at minus
  refine read?_eq minus (readWhole?_stop h.whole ?_) ?_ (readExponent_some rest wf)
  · cases l.fraction with
    | nil => exact fun c hc => (mark c hc).1
    | cons d f => rintro c ⟨⟩; rfl
  · cases hf : l.fraction with
    | nil => exact readFraction_none fun hc => (mark _ hc).2 rfl
    | cons d f =>
      have stop := digits_stop fun c hc => (mark c hc).1
      have read := readFraction_some (e.text ++ rest) (by simp) (hf ▸ h.fraction)
      simpa [stop] using read

theorem read?_fraction {l : Literal} (rest : Text) (h : l.WellFormed) (he : l.exponent = none)
    (hf : l.fraction ≠ []) :
    Literal.read? (l.text ++ rest) =
      some (⟨l.negative, l.whole, l.fraction ++ digits rest, (readExponent (afterDigits rest)).1⟩,
        (readExponent (afterDigits rest)).2) := by
  have minus := readMinus_literal rest h
  simp only [he, List.isEmpty_iff, hf, ↓reduceIte, Option.map_none, Option.getD_none,
    List.nil_append, List.cons_append] at minus
  refine read?_eq minus (readWhole?_stop h.whole ?_) (readFraction_some rest hf h.fraction) rfl
  rintro c ⟨⟩
  rfl

theorem read?_whole {l : Literal} (rest : Text) (h : l.WellFormed) (he : l.exponent = none)
    (hf : l.fraction = []) {whole left : Text}
    (hw : readWhole? (l.whole ++ rest) = some (whole, left)) :
    Literal.read? (l.text ++ rest) =
      some (⟨l.negative, whole, (readFraction left).1, (readExponent (readFraction left).2).1⟩,
        (readExponent (readFraction left).2).2) := by
  have minus := readMinus_literal rest h
  simp only [he, hf, List.isEmpty_nil, ↓reduceIte, Option.map_none, Option.getD_none,
    List.nil_append] at minus
  exact read?_eq minus hw rfl rfl

/-- No literal goes on into this text. -/
def Unextending (rest : Text) : Prop :=
  ∀ c ∈ rest.head?, c.isDigit = false ∧ c ≠ '.' ∧ c ≠ 'e' ∧ c ≠ 'E'

theorem unextending_nil : Unextending [] := by simp [Unextending]

/-- A well-formed literal is read back from its text. -/
theorem read?_text {l : Literal} {rest : Text} (h : l.WellFormed) (stop : Unextending rest) :
    Literal.read? (l.text ++ rest) = some (l, rest) := by
  obtain ⟨none_left, all_left⟩ := digits_stop fun c hc => (stop c hc).1
  have no_exponent : readExponent rest = (none, rest) :=
    readExponent_none fun c hc => (stop c hc).2.2
  cases he : l.exponent with
  | some e => simp [read?_exponent rest h he, none_left, all_left, ← he]
  | none =>
    by_cases hf : l.fraction = []
    · have no_fraction : readFraction rest = ([], rest) :=
        readFraction_none fun hc => (stop _ hc).2.1 rfl
      have whole := readWhole?_stop h.whole fun c hc => (stop c hc).1
      simp [read?_whole rest h he hf whole, no_fraction, no_exponent, ← he, ← hf]
    · simp [read?_fraction rest h he hf, none_left, all_left, no_exponent, ← he]

theorem readWhole?_mem {t whole rest : Text} (h : readWhole? t = some (whole, rest)) :
    whole ∈ wholeWords := by
  cases t with
  | nil => simp [readWhole?] at h
  | cons c t =>
    simp only [readWhole?] at h
    split at h
    · simp only [Option.some.injEq, Prod.mk.injEq] at h
      exact mem_wholeWords.2 (.inl h.1.symm)
    · next nonzero =>
      split at h
      · next hc =>
        simp only [Option.some.injEq, Prod.mk.injEq] at h
        exact mem_wholeWords.2
          (.inr ⟨c, digits t, h.1.symm, hc, nonzero, fun _ => List.mem_takeWhile_imp⟩)
      · simp at h

theorem readFraction_digits (t : Text) : ∀ c ∈ (readFraction t).1, c.isDigit = true := by
  unfold readFraction
  split
  · split
    · simp
    · exact fun _ => List.mem_takeWhile_imp
  · simp

theorem readSign_mem (t : Text) : ∀ c ∈ (readSign t).1, c = '-' ∨ c = '+' := by
  unfold readSign
  split <;> simp

theorem readExponent_wellFormed (t : Text) : ∀ e ∈ (readExponent t).1, e.WellFormed := by
  cases t with
  | nil => simp [readExponent]
  | cons c t =>
    simp only [readExponent]
    split
    · next hc =>
      split
      · simp
      · next hne =>
        rintro e ⟨⟩
        refine ⟨hc, readSign_mem t, mem_digitWords.2 ⟨?_, fun _ => List.mem_takeWhile_imp⟩⟩
        simpa using hne
    · simp

theorem read?_wellFormed {t rest : Text} {l : Literal} (h : Literal.read? t = some (l, rest)) :
    l.WellFormed := by
  obtain ⟨⟨whole, u⟩, found, eq⟩ := Option.map_eq_some_iff.1 h
  simp only [Prod.mk.injEq] at eq
  obtain ⟨rfl, rfl⟩ := eq
  exact ⟨readWhole?_mem found, readFraction_digits u, readExponent_wellFormed _⟩

theorem readFraction_length (t : Text) : (readFraction t).2.length ≤ t.length := by
  have whole := congrArg List.length (readFraction_append t)
  rw [List.length_append] at whole
  omega

theorem readExponent_length (t : Text) : (readExponent t).2.length ≤ t.length := by
  have whole := congrArg List.length (readExponent_append t)
  rw [List.length_append] at whole
  omega

theorem afterDigits_length (t : Text) : (afterDigits t).length ≤ t.length :=
  (List.dropWhile_suffix Char.isDigit).length_le

/-- Where a literal stands at the front, the reader leaves no more than what follows it. -/
theorem read?_leaves {l : Literal} (rest : Text) (h : l.WellFormed) :
    ∃ found left, Literal.read? (l.text ++ rest) = some (found, left) ∧
      left.length ≤ rest.length := by
  cases he : l.exponent with
  | some e => exact ⟨_, _, read?_exponent rest h he, afterDigits_length rest⟩
  | none =>
    by_cases hf : l.fraction = []
    · obtain ⟨more, left, hw, eq⟩ := readWhole?_whole rest h.whole
      refine ⟨_, _, read?_whole rest h he hf hw, ?_⟩
      have shorter := congrArg List.length eq
      rw [List.length_append] at shorter
      have := readFraction_length left
      have := readExponent_length (readFraction left).2
      omega
    · refine ⟨_, _, read?_fraction rest h he hf, ?_⟩
      have := afterDigits_length rest
      have := readExponent_length (afterDigits rest)
      omega

/-- At a digit there is always something to read. -/
theorem read?_digit {c : Char} (t : Text) (h : c.isDigit = true) :
    ∃ l rest, Literal.read? (c :: t) = some (l, rest) := by
  have single : [c] ∈ wholeWords := by
    by_cases zero : c = '0'
    · exact mem_wholeWords.2 (.inl (by rw [zero]))
    · exact mem_wholeWords.2 (.inr ⟨c, [], rfl, h, zero, by simp⟩)
  have wf : Literal.WellFormed ⟨false, [c], [], none⟩ := ⟨single, by simp, by simp⟩
  obtain ⟨l, rest, read, -⟩ := read?_leaves t wf
  exact ⟨l, rest, read⟩

theorem read?_longest {t rest : Text} {l : Literal} (h : Literal.read? t = some (l, rest)) :
    Longest literalWords t l.text where
  front := ⟨rest, Literal.read?_append h⟩
  mem := mem_literalWords.2 ⟨l, read?_wellFormed h, rfl⟩
  longest := by
    rintro v ⟨after, rfl⟩ hv
    obtain ⟨shorter, wf, rfl⟩ := mem_literalWords.1 hv
    obtain ⟨found, left, read, short⟩ := read?_leaves after wf
    obtain ⟨rfl, rfl⟩ := Prod.mk.inj (Option.some.inj (read.symm.trans h))
    have sizes := congrArg List.length (Literal.read?_append h)
    simp only [List.length_append] at sizes
    omega

theorem read?_eq_none {t : Text} (h : Literal.read? t = none) :
    ∀ w, w <+: t → w ∉ literalWords := by
  rintro w ⟨rest, rfl⟩ hw
  obtain ⟨l, wf, rfl⟩ := mem_literalWords.1 hw
  obtain ⟨found, left, read, -⟩ := read?_leaves rest wf
  rw [h] at read
  cases read

end QueryInk.Decimal

import QueryInk.Text.Bytes

namespace QueryInk.Decimal

structure Exponent where
  mark : Char
  sign : Option Char
  digits : Text
  deriving DecidableEq, Repr

/-- The parts of a literal as written. `fraction` is empty when there is no point. -/
structure Literal where
  negative : Bool
  whole : Text
  fraction : Text
  exponent : Option Exponent
  deriving DecidableEq, Repr

def Exponent.text (e : Exponent) : Text := e.mark :: (e.sign.toList ++ e.digits)

def Literal.text (l : Literal) : Text :=
  (if l.negative then ['-'] else []) ++ l.whole ++
  (if l.fraction.isEmpty then [] else '.' :: l.fraction) ++
  (l.exponent.map Exponent.text).getD []

def digits (t : Text) : Text := t.takeWhile Char.isDigit

def afterDigits (t : Text) : Text := t.dropWhile Char.isDigit

/-- A leading zero stands alone, so `007` is three literals. -/
def readWhole? : Text → Option (Text × Text)
  | [] => none
  | c :: t =>
    if c = '0' then some (['0'], t)
    else if c.isDigit then some (c :: digits t, afterDigits t)
    else none

def readFraction : Text → Text × Text
  | '.' :: t => if (digits t).isEmpty then ([], '.' :: t) else (digits t, afterDigits t)
  | t => ([], t)

def readSign : Text → Option Char × Text
  | '+' :: t => (some '+', t)
  | '-' :: t => (some '-', t)
  | t => (none, t)

def readExponent : Text → Option Exponent × Text
  | [] => (none, [])
  | c :: t =>
    if c = 'e' ∨ c = 'E' then
      let sign := readSign t
      if (digits sign.2).isEmpty then (none, c :: t)
      else (some ⟨c, sign.1, digits sign.2⟩, afterDigits sign.2)
    else (none, c :: t)

def readMinus : Text → Bool × Text
  | '-' :: t => (true, t)
  | t => (false, t)

/-- The longest literal at the front of a text, and the text after it. -/
def Literal.read? (t : Text) : Option (Literal × Text) :=
  let minus := readMinus t
  (readWhole? minus.2).map fun (whole, t) =>
    let fraction := readFraction t
    let exponent := readExponent fraction.2
    (⟨minus.1, whole, fraction.1, exponent.1⟩, exponent.2)

/-- The length of the longest literal at the front of a text. -/
def literalLength? (t : Text) : Option Nat :=
  (Literal.read? t).map fun (l, _) => l.text.length

def ofDigits (t : Text) : Nat := t.foldl (fun n c => 10 * n + (c.toNat - '0'.toNat)) 0

def Exponent.value (e : Exponent) : Int :=
  if e.sign = some '-' then -(ofDigits e.digits : Int) else ofDigits e.digits

/-- The power of ten that the digits of the literal, read as one whole number, are scaled by. -/
def Literal.scale (l : Literal) : Int :=
  (l.exponent.map Exponent.value).getD 0 - (l.fraction.length : Int)

/-- Half a unit above the largest double: from here on rounding gives infinity. -/
def overflowBound : Nat := Nat.pow 2 1024 - Nat.pow 2 970

/-- Whether the value, sign aside, is below `overflowBound`. With `n` digits after the
leading zeros, it is at least `10 ^ (n + scale - 1)` and less than `10 ^ (n + scale)`. -/
def Literal.isFinite (l : Literal) : Bool :=
  let significant := (l.whole ++ l.fraction).dropWhile (· == '0')
  let magnitude : Int := significant.length + l.scale
  if significant.isEmpty then true
  else if magnitude ≤ 308 then true
  else if 310 ≤ magnitude then false
  else if 0 ≤ l.scale then ofDigits significant * Nat.pow 10 l.scale.toNat < overflowBound
  else ofDigits significant < overflowBound * Nat.pow 10 (-l.scale).toNat

/-! What a reader takes and what it leaves make up the text. -/

theorem digits_append (t : Text) : digits t ++ afterDigits t = t :=
  List.takeWhile_append_dropWhile

theorem readWhole?_append {t whole rest : Text} (h : readWhole? t = some (whole, rest)) :
    whole ++ rest = t := by
  cases t with
  | nil => simp [readWhole?] at h
  | cons c t =>
    simp only [readWhole?] at h
    split at h
    · simp only [Option.some.injEq, Prod.mk.injEq] at h
      obtain ⟨rfl, rfl⟩ := h
      simp_all
    · split at h
      · simp only [Option.some.injEq, Prod.mk.injEq] at h
        obtain ⟨rfl, rfl⟩ := h
        simp [digits_append]
      · simp at h

theorem readWhole?_ne_nil {t whole rest : Text} (h : readWhole? t = some (whole, rest)) :
    whole ≠ [] := by
  cases t with
  | nil => simp [readWhole?] at h
  | cons c t =>
    simp only [readWhole?] at h
    split at h
    · simp only [Option.some.injEq, Prod.mk.injEq] at h
      simp [← h.1]
    · split at h
      · simp only [Option.some.injEq, Prod.mk.injEq] at h
        simp [← h.1]
      · simp at h

theorem readFraction_append (t : Text) :
    (if (readFraction t).1.isEmpty then [] else '.' :: (readFraction t).1) ++ (readFraction t).2 =
      t := by
  simp only [readFraction]
  split
  · split
    · simp
    · simp [digits_append, *]
  · simp

theorem readSign_append (t : Text) : (readSign t).1.toList ++ (readSign t).2 = t := by
  simp only [readSign]
  split <;> simp

theorem readExponent_append (t : Text) :
    ((readExponent t).1.map Exponent.text).getD [] ++ (readExponent t).2 = t := by
  cases t with
  | nil => simp [readExponent]
  | cons c t =>
    simp only [readExponent]
    split
    · split
      · simp
      · simp [Exponent.text, digits_append, readSign_append]
    · simp

theorem readMinus_append (t : Text) :
    (if (readMinus t).1 then ['-'] else []) ++ (readMinus t).2 = t := by
  simp only [readMinus]
  split <;> simp

theorem Literal.read?_append {t rest : Text} {l : Literal} (h : Literal.read? t = some (l, rest)) :
    l.text ++ rest = t := by
  obtain ⟨⟨whole, u⟩, found, eq⟩ := Option.map_eq_some_iff.1 h
  simp only [Prod.mk.injEq] at eq
  obtain ⟨rfl, rfl⟩ := eq
  simp only [Literal.text, List.append_assoc, readExponent_append, readFraction_append,
    readWhole?_append found, readMinus_append]

theorem Literal.read?_text_ne_nil {t rest : Text} {l : Literal}
    (h : Literal.read? t = some (l, rest)) : l.text ≠ [] := by
  obtain ⟨⟨whole, u⟩, found, eq⟩ := Option.map_eq_some_iff.1 h
  simp only [Prod.mk.injEq] at eq
  have := readWhole?_ne_nil found
  obtain ⟨rfl, rfl⟩ := eq
  simp [Literal.text, this]

end QueryInk.Decimal

import QueryInk.Proofs.Decimal.Grammar

namespace QueryInk.Json
open Decimal (Literal)

/-- A value. Numbers are kept as they are written. -/
inductive Value where
  | null
  | bool (b : Bool)
  | number (l : Literal)
  | string (t : Text)
  | array (items : List Value)
  | object (members : List (Text × Value))

def isGap (c : Char) : Bool := c == ' ' || c == '\t' || c == '\n' || c == '\r'

def Gap (t : Text) : Prop := ∀ c ∈ t, isGap c = true

instance (t : Text) : Decidable (Gap t) := List.decidableBAll _ t

def hexValue? (c : Char) : Option Nat :=
  if c.isDigit then some (c.toNat - '0'.toNat)
  else if 'a' ≤ c ∧ c ≤ 'f' then some (c.toNat - 'a'.toNat + 10)
  else if 'A' ≤ c ∧ c ≤ 'F' then some (c.toNat - 'A'.toNat + 10)
  else none

/-- The number that four hexadecimal digits stand for. -/
def unit? (digits : Char × Char × Char × Char) : Option Nat := do
  let a ← hexValue? digits.1
  let b ← hexValue? digits.2.1
  let c ← hexValue? digits.2.2.1
  let d ← hexValue? digits.2.2.2
  return ((a * 16 + b) * 16 + c) * 16 + d

/-- The escape of four hexadecimal digits. -/
def unitText (digits : Char × Char × Char × Char) : Text :=
  ['\\', 'u', digits.1, digits.2.1, digits.2.2.1, digits.2.2.2]

/-- What can stand after a backslash, and the character meant. -/
def shortEscapes : List (Char × Char) :=
  [('"', '"'), ('\\', '\\'), ('/', '/'), ('b', '\x08'), ('f', '\x0c'), ('n', '\n'), ('r', '\r'),
   ('t', '\t')]

/-- The ways to spell a character within a string. Half of a surrogate pair is no character. -/
inductive SpellsChar : Text → Char → Prop
  | plain {c : Char} (printable : 0x20 ≤ c.toNat) (noQuote : c ≠ '"') (noEscape : c ≠ '\\') :
    SpellsChar [c] c
  | short {e c : Char} (listed : (e, c) ∈ shortEscapes) : SpellsChar ['\\', e] c
  | unit {digits : Char × Char × Char × Char} {c : Char} (is : unit? digits = some c.toNat) :
    SpellsChar (unitText digits) c
  | pair {first second : Char × Char × Char × Char} {high low : Nat} {c : Char}
    (isHigh : unit? first = some (0xD800 + high)) (highBound : high < 0x400)
    (isLow : unit? second = some (0xDC00 + low)) (lowBound : low < 0x400)
    (is : c.toNat = 0x10000 + high * 0x400 + low) :
    SpellsChar (unitText first ++ unitText second) c

inductive SpellsChars : Text → Text → Prop
  | nil : SpellsChars [] []
  | cons {t u s : Text} {c : Char} (first : SpellsChar t c) (rest : SpellsChars u s) :
    SpellsChars (t ++ u) (c :: s)

def quotes (t : Text) : Text := '"' :: (t ++ ['"'])

/-- A text meant for a value, with the gaps around it. -/
structure Element where
  before : Text
  text : Text
  after : Text
  value : Value
  gap_before : Gap before
  gap_after : Gap after

def Element.written (e : Element) : Text := e.before ++ (e.text ++ e.after)

/-- An element with its name. -/
structure Member where
  before : Text
  label : Text
  after : Text
  name : Text
  element : Element
  gap_before : Gap before
  gap_after : Gap after
  spelled : SpellsChars label name

def Member.written (m : Member) : Text :=
  m.before ++ (quotes m.label ++ (m.after ++ ':' :: m.element.written))

def Member.entry (m : Member) : Text × Value := (m.name, m.element.value)

inductive Spells : Text → Value → Prop
  | null : Spells "null".toList .null
  | bool (b : Bool) : Spells (if b then "true".toList else "false".toList) (.bool b)
  | number {l : Literal} (wf : l.WellFormed) : Spells l.text (.number l)
  | string {t s : Text} (chars : SpellsChars t s) : Spells (quotes t) (.string s)
  | array {elements : List Element} {gap : Text} (blank : Gap gap)
    (each : ∀ e ∈ elements, Spells e.text e.value) :
    Spells ('[' :: ([','].intercalate (elements.map Element.written) ++ (gap ++ [']'])))
      (.array (elements.map Element.value))
  | object {members : List Member} {gap : Text} (blank : Gap gap)
    (each : ∀ m ∈ members, Spells m.element.text m.element.value) :
    Spells ('{' :: ([','].intercalate (members.map Member.written) ++ (gap ++ ['}'])))
      (.object (members.map Member.entry))

end QueryInk.Json

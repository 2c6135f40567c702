import QueryInk.Decimal.Literal
import QueryInk.Toml.Node

namespace QueryInk.Toml

abbrev Reader (α : Type) := Text → Option (α × Text)

def isSpace (c : Char) : Bool := c == ' ' || c == '\t'

def skipSpaces (t : Text) : Text := t.dropWhile isSpace

/-- A character that may stand in a comment or a string as itself. -/
def isPlain (c : Char) : Bool := c == '\t' || (0x20 ≤ c.toNat && c.toNat != 0x7F)

def newline? : Text → Option Text
  | '\n' :: t => some t
  | '\r' :: '\n' :: t => some t
  | _ => none

/-! ## Strings -/

def hexDigit? (c : Char) : Option Nat :=
  if c.isDigit then some (c.toNat - '0'.toNat)
  else if 'a' ≤ c ∧ c ≤ 'f' then some (c.toNat - 'a'.toNat + 10)
  else if 'A' ≤ c ∧ c ≤ 'F' then some (c.toNat - 'A'.toNat + 10)
  else none

/-- The number that digits stand for, if each is below the base. -/
def numeral? (base : Nat) (t : Text) : Option Nat :=
  t.foldlM (fun n c => do
    let digit ← hexDigit? c
    guard (digit < base)
    return base * n + digit) 0

/-- A code point of exactly `size` hexadecimal digits. -/
def codePoint (size : Nat) : Reader Char := fun t => do
  let digits := t.take size
  guard (digits.length = size)
  let code ← numeral? 16 digits
  guard code.isValidChar
  return (Char.ofNat code, t.drop size)

/-- What follows a backslash. -/
def escaped : Reader Char
  | 'b' :: t => some ('\x08', t)
  | 't' :: t => some ('\t', t)
  | 'n' :: t => some ('\n', t)
  | 'f' :: t => some ('\x0c', t)
  | 'r' :: t => some ('\r', t)
  | '"' :: t => some ('"', t)
  | '\\' :: t => some ('\\', t)
  | 'u' :: t => codePoint 4 t
  | 'U' :: t => codePoint 8 t
  | _ => none

def prepend (c : Char) (read : Option (Text × Text)) : Option (Text × Text) :=
  read.map fun (body, rest) => (c :: body, rest)

/-- The rest of a string on one line, through its closing quote. -/
def basicBody : Nat → Reader Text
  | 0, _ => none
  | _ + 1, [] => none
  | fuel + 1, c :: t =>
    if c = '"' then some ([], t)
    else if c = '\\' then do
      let (e, rest) ← escaped t
      prepend e (basicBody fuel rest)
    else if isPlain c then prepend c (basicBody fuel t)
    else none

/-- As `basicBody`, with no escapes. -/
def literalBody : Reader Text
  | [] => none
  | c :: t =>
    if c = '\'' then some ([], t)
    else if isPlain c then prepend c (literalBody t)
    else none

/-- The end of a string over several lines, after three quotes. Up to two more before them
belong to the string. -/
def closing (quote : Char) : Text → Text × Text
  | a :: b :: t =>
    if a = quote then if b = quote then ([a, b], t) else ([a], b :: t) else ([], a :: b :: t)
  | [a] => if a = quote then ([a], []) else ([], [a])
  | [] => ([], [])

def startsTriple (quote : Char) (t : Text) : Bool := t.take 3 == [quote, quote, quote]

/-- Skips spaces and line ends. -/
def skipEmptyLines : Text → Text
  | '\r' :: '\n' :: t => skipEmptyLines t
  | c :: t => if isSpace c || c == '\n' then skipEmptyLines t else c :: t
  | [] => []

/-- The text after a backslash that ends a line. The line end goes, and all spaces and line ends
that follow it. -/
def fold? (t : Text) : Option Text := (newline? (skipSpaces t)).map skipEmptyLines

/-- The rest of a string over several lines, through its closing quotes. -/
def longBody (quote : Char) (escapes : Bool) : Nat → Reader Text
  | 0, _ => none
  | _ + 1, [] => none
  | fuel + 1, c :: t =>
    if startsTriple quote (c :: t) then some (closing quote (t.drop 2))
    else if escapes ∧ c = '\\' then
      match fold? t with
      | some rest => longBody quote escapes fuel rest
      | none => do
        let (e, rest) ← escaped t
        prepend e (longBody quote escapes fuel rest)
    else match newline? (c :: t) with
      | some rest => prepend '\n' (longBody quote escapes fuel rest)
      | none => if isPlain c then prepend c (longBody quote escapes fuel t) else none

/-- A string on one line, in double or single quotes. -/
def shortString : Reader Text
  | '"' :: t => basicBody (t.length + 1) t
  | '\'' :: t => literalBody t
  | _ => none

/-- A line end right after the opening quotes does not count. -/
def longString (quote : Char) : Reader Text := fun t =>
  let body := t.drop 3
  let body := (newline? body).getD body
  longBody quote (quote == '"') (body.length + 1) body

def string : Reader Node := fun t => do
  let (value, rest) ←
    if startsTriple '"' t then longString '"' t
    else if startsTriple '\'' t then longString '\'' t
    else shortString t
  return (.text (String.ofList value), rest)

/-! ## Numbers -/

/-- Digits with single underscores between them, less the underscores. -/
def moreDigits (digit : Char → Bool) : Reader Text
  | [] => some ([], [])
  | [c] => if digit c then some ([c], []) else if c = '_' then none else some ([], [c])
  | c :: d :: t =>
    if digit c then prepend c (moreDigits digit (d :: t))
    else if c = '_' then if digit d then moreDigits digit (d :: t) else none
    else some ([], c :: d :: t)

def someDigits (digit : Char → Bool) : Reader Text
  | [] => none
  | c :: t => if digit c then prepend c (moreDigits digit t) else none

/-- The whole part of a decimal number: no zero leads but alone. -/
def wholePart : Reader Text
  | '0' :: t => some (['0'], t)
  | t => someDigits Char.isDigit t

def sign (t : Text) : Option Char × Text := Decimal.readSign t

def minInteger : Int := -0x8000000000000000

def maxInteger : Int := 0x7FFFFFFFFFFFFFFF

def inRange? (n : Int) : Option Node :=
  if minInteger ≤ n ∧ n ≤ maxInteger then some (.integer n) else none

/-- A whole number in base 16, 8 or 2. It has no sign. -/
def based (base : Nat) : Reader Node := fun t => do
  let (digits, rest) ← someDigits (fun c => (hexDigit? c).any (· < base)) t
  return (← inRange? (← numeral? base digits), rest)

def integer : Reader Node
  | '0' :: 'x' :: t => based 16 t
  | '0' :: 'o' :: t => based 8 t
  | '0' :: 'b' :: t => based 2 t
  | t => do
    let (s, t) := sign t
    let (digits, rest) ← wholePart t
    let n : Int := Decimal.ofDigits digits
    return (← inRange? (if s = some '-' then -n else n), rest)

def exponentPart : Reader Decimal.Exponent
  | c :: t => do
    guard (c = 'e' ∨ c = 'E')
    let (s, t) := sign t
    let (digits, rest) ← someDigits Char.isDigit t
    return (⟨c, s, digits⟩, rest)
  | [] => none

/-- The point of a number and the digits after it. -/
def fractionPart : Reader Text
  | '.' :: t => someDigits Char.isDigit t
  | _ => none

/-- What makes a number a float: an exponent, or a fraction and perhaps an exponent. -/
def floatTail : Reader (Text × Option Decimal.Exponent) := fun t =>
  match fractionPart t with
  | some (fraction, t) => match exponentPart t with
    | some (exponent, rest) => some ((fraction, some exponent), rest)
    | none => some ((fraction, none), t)
  | none => (exponentPart t).map fun (exponent, rest) => (([], some exponent), rest)

/-- A float beyond the range of a double is refused above it and taken for infinite below. -/
def float : Reader Node := fun t => do
  let (s, t) := sign t
  let (whole, t) ← wholePart t
  let ((fraction, exponent), rest) ← floatTail t
  let literal : Decimal.Literal := ⟨s = some '-', whole, fraction, exponent⟩
  guard (literal.negative || literal.isFinite)
  return (.float, rest)

def specialFloat : Reader Node := fun t =>
  match (sign t).2 with
  | 'i' :: 'n' :: 'f' :: rest => some (.float, rest)
  | 'n' :: 'a' :: 'n' :: rest => some (.float, rest)
  | _ => none

/-! ## Dates and times -/

/-- A number of exactly `size` digits between two bounds. -/
def between (size lo hi : Nat) : Reader Nat := fun t => do
  let digits := t.take size
  guard (digits.length = size ∧ digits.all Char.isDigit)
  let n := Decimal.ofDigits digits
  guard (lo ≤ n ∧ n ≤ hi)
  return (n, t.drop size)

def expect? (c : Char) : Text → Option Text
  | d :: t => if d = c then some t else none
  | [] => none

def isLeapYear (year : Nat) : Bool := year % 4 == 0 && (year % 100 != 0 || year % 400 == 0)

def daysIn (year month : Nat) : Nat :=
  if month = 2 then if isLeapYear year then 29 else 28
  else if month ∈ [4, 6, 9, 11] then 30
  else 31

def date? (t : Text) : Option Text := do
  let (year, t) ← between 4 0 9999 t
  let (month, t) ← between 2 1 12 (← expect? '-' t)
  let (_, t) ← between 2 1 (daysIn year month) (← expect? '-' t)
  return t

/-- The fraction of a second, if there is one. -/
def secondFraction : Text → Text
  | '.' :: c :: t => if c.isDigit then t.dropWhile Char.isDigit else '.' :: c :: t
  | t => t

def time? (t : Text) : Option Text := do
  let (_, t) ← between 2 0 23 t
  let (_, t) ← between 2 0 59 (← expect? ':' t)
  let (_, t) ← between 2 0 60 (← expect? ':' t)
  return secondFraction t

def offset? : Text → Option Text
  | 'Z' :: t => some t
  | 'z' :: t => some t
  | c :: t => do
    guard (c = '+' ∨ c = '-')
    let (_, t) ← between 2 0 23 t
    let (_, t) ← between 2 0 59 (← expect? ':' t)
    return t
  | [] => none

/-- The time after a date, if there is one. -/
def timeAfterDate? : Text → Option Text
  | c :: t => do
    guard (c = 'T' ∨ c = 't' ∨ c = ' ')
    let t ← time? t
    return (offset? t).getD t
  | [] => none

def moment : Reader Node := fun t =>
  match date? t with
  | some t => some (.moment, (timeAfterDate? t).getD t)
  | none => (time? t).map fun t => (.moment, t)

/-! ## Any of them -/

def boolean : Reader Node
  | 't' :: 'r' :: 'u' :: 'e' :: t => some (.boolean true, t)
  | 'f' :: 'a' :: 'l' :: 's' :: 'e' :: t => some (.boolean false, t)
  | _ => none

def scalar : Reader Node := fun t =>
  string t <|> boolean t <|> moment t <|> float t <|> specialFloat t <|> integer t

end QueryInk.Toml

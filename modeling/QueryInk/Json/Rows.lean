import QueryInk.Text.Bytes

namespace QueryInk.Json

inductive Scalar where
  | text (t : Text)
  | count (n : Nat)
  deriving DecidableEq, Repr

/-- A flat object. -/
abbrev Row := List (String × Scalar)

def hexDigit (n : Nat) : Char := (Nat.toDigits 16 n).headD '0'

/-- The short escapes, and `\u` with four digits for the control characters that have none. -/
def escape (c : Char) : Text :=
  if c = '"' then ['\\', '"']
  else if c = '\\' then ['\\', '\\']
  else if c = '\x08' then ['\\', 'b']
  else if c = '\t' then ['\\', 't']
  else if c = '\n' then ['\\', 'n']
  else if c = '\x0c' then ['\\', 'f']
  else if c = '\r' then ['\\', 'r']
  else if c.toNat < 0x20 then
    ['\\', 'u', '0', '0', hexDigit (c.toNat / 16), hexDigit (c.toNat % 16)]
  else [c]

def quote (t : Text) : Text := '"' :: (t.flatMap escape ++ ['"'])

def Scalar.print : Scalar → Text
  | text t => quote t
  | count n => Nat.toDigits 10 n

def printMember (member : String × Scalar) : Text :=
  "    ".toList ++ quote member.1.toList ++ ": ".toList ++ member.2.print

def separator : Text := [',', '\n']

def printRow (row : Row) : Text :=
  "  \x7b\n".toList ++ separator.intercalate (row.map printMember) ++ "\n  \x7d".toList

def print (rows : List Row) : Text :=
  if rows.isEmpty then ['[', ']']
  else ['[', '\n'] ++ separator.intercalate (rows.map printRow) ++ ['\n', ']']

end QueryInk.Json

import QueryInk.Text.Bytes
import QueryInk.Text.Shapeless

namespace QueryInk.Text

def escapeQuoted (c : Char) : Text :=
  if c = '\x00' then ['\\', '0']
  else if c = '\t' then ['\\', 't']
  else if c = '\n' then ['\\', 'n']
  else if c = '\r' then ['\\', 'r']
  else if c = '"' then ['\\', '"']
  else if c = '\\' then ['\\', '\\']
  else if isShapeless c then "\\u\x7b".toList ++ Nat.toDigits 16 c.toNat ++ ['}']
  else [c]

/-- The form in which a failure shows a text that it holds. -/
def quoted (s : String) : String :=
  String.ofList ('"' :: (s.toList.flatMap escapeQuoted ++ ['"']))

end QueryInk.Text

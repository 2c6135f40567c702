import QueryInk.Text.Bytes

namespace QueryInk.Text

/-- The code points with the property White_Space, as closed ranges. -/
def blankRanges : List (Nat × Nat) :=
  [(0x09, 0x0D), (0x20, 0x20), (0x85, 0x85), (0xA0, 0xA0), (0x1680, 0x1680), (0x2000, 0x200A),
   (0x2028, 0x2029), (0x202F, 0x202F), (0x205F, 0x205F), (0x3000, 0x3000)]

def isBlank (c : Char) : Bool :=
  blankRanges.any fun (lo, hi) => lo ≤ c.toNat && c.toNat ≤ hi

/-- Letters of bare words: ASCII only, so that `é` is never part of a word. -/
def isWordChar (c : Char) : Bool := c.isAlpha

/-- Characters of a name after `$`. A name may start with a digit or a hyphen. -/
def isNameChar (c : Char) : Bool := c.isAlphanum || c == '_' || c == '-'

/-- The two quotes of string literals. The backtick quotes names and is not one of them. -/
def isQuote (c : Char) : Bool := c == '"' || c == '\''

end QueryInk.Text

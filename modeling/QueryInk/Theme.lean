import QueryInk.Token.Kind

namespace QueryInk

inductive Hue where
  | black | red | green | yellow | blue | magenta | cyan | white
  deriving DecidableEq, Repr

namespace Hue

def all : List Hue := [black, red, green, yellow, blue, magenta, cyan, white]

def name : Hue → String
  | black => "black"
  | red => "red"
  | green => "green"
  | yellow => "yellow"
  | blue => "blue"
  | magenta => "magenta"
  | cyan => "cyan"
  | white => "white"

/-- The place of the hue among the eight that a terminal numbers. -/
def code : Hue → Nat
  | black => 0
  | red => 1
  | green => 2
  | yellow => 3
  | blue => 4
  | magenta => 5
  | cyan => 6
  | white => 7

end Hue

inductive Color where
  | none
  | normal (hue : Hue)
  | bright (hue : Hue)
  deriving DecidableEq, Repr

namespace Color

def all : List Color := none :: (Hue.all.map normal ++ Hue.all.map bright)

def name : Color → String
  | none => "none"
  | normal hue => hue.name
  | bright hue => "bright-" ++ hue.name

def ofName? (name : String) : Option Color := all.find? (·.name == name)

/-- The graphic rendition parameter that sets the colour of the text. -/
def parameter? : Color → Option Nat
  | none => .none
  | normal hue => some (30 + hue.code)
  | bright hue => some (90 + hue.code)

end Color

/-- What a theme colours. Errors in a string or number keep the colour of their role. -/
inductive Role where
  | keyword | number | var | operator | string | builtin | field | stray
  deriving DecidableEq, Repr

namespace Role

/-- The roles in the order in which a theme lists them. -/
def all : List Role := [keyword, number, var, operator, string, builtin, field, stray]

def name : Role → String
  | keyword => "keyword"
  | number => "number"
  | var => "variable"
  | operator => "operator"
  | string => "string"
  | builtin => "builtin"
  | field => "attribute"
  | stray => "error"

end Role

def Kind.role (kind : Kind) : Role :=
  match kind.base with
  | .keyword => .keyword
  | .number => .number
  | .var => .var
  | .operator => .operator
  | .string => .string
  | .builtin => .builtin
  | .field => .field
  | _ => .stray

abbrev Theme := Role → Color

namespace Theme

def default : Theme
  | .keyword => .normal .magenta
  | .number => .normal .cyan
  | .var => .normal .blue
  | .operator => .normal .yellow
  | .string => .normal .green
  | .builtin => .bright .cyan
  | .field => .none
  | .stray => .normal .red

end Theme

end QueryInk

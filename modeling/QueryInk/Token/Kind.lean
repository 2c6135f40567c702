namespace QueryInk

inductive Kind where
  | operator
  | keyword
  | string
  /-- A string or quoted name with no closing quote. -/
  | badString
  | number
  /-- A number beyond the range of a double. -/
  | badNumber
  | var
  | builtin
  | field
  /-- A character no rule takes. -/
  | stray
  deriving DecidableEq, Repr

namespace Kind

def all : List Kind :=
  [operator, keyword, string, badString, number, badNumber, var, builtin, field, stray]

def style : Kind → String
  | operator => "operator"
  | keyword => "keyword"
  | string => "string"
  | badString => "string error"
  | number => "number"
  | badNumber => "number error"
  | var => "variable"
  | builtin => "builtin"
  | field => "attribute"
  | stray => "error"

def ofStyle? (label : String) : Option Kind := all.find? (·.style == label)

def isError : Kind → Bool
  | badString | badNumber | stray => true
  | _ => false

def base : Kind → Kind
  | badString => string
  | badNumber => number
  | kind => kind

end Kind

end QueryInk

import QueryInk.Text.Classes

namespace QueryInk.Vocabulary

/-- Operators of two characters. -/
def pairs : List String := ["..", ":=", "!=", ">=", "<=", "**", "~>"]

/-- Operators of one character. -/
def symbols : List Char :=
  ['.', '[', ']', '{', '}', '(', ')', ',', '@', '#', ';', ':', '?', '+', '-', '*', '/', '%', '|',
   '=', '<', '>', '^', '&', '!', '~']

def wordOperators : List String := ["and", "or", "in"]

def keywords : List String := ["true", "false", "null"]

/-- The standard functions, without their `$`: on strings, numbers, sequences of numbers,
truth values, arrays, objects, times, and those that take functions. -/
def functions : List String :=
  ["string", "length", "substring", "substringBefore", "substringAfter", "uppercase", "lowercase",
   "trim", "pad", "contains", "split", "join", "match", "replace", "eval", "base64encode",
   "base64decode", "encodeUrl", "encodeUrlComponent", "decodeUrl", "decodeUrlComponent",
   "number", "abs", "floor", "ceil", "round", "power", "sqrt", "random", "formatNumber",
   "formatBase", "formatInteger", "parseInteger",
   "sum", "max", "min", "average",
   "boolean", "not", "exists",
   "count", "append", "sort", "reverse", "shuffle", "distinct", "zip", "partition",
   "keys", "lookup", "spread", "merge", "sift", "each", "error", "assert", "type",
   "now", "millis", "fromMillis", "toMillis",
   "map", "filter", "single", "reduce"]

def isSymbol (c : Char) : Bool := symbols.contains c

def isWordOperator (word : Text) : Bool := wordOperators.any (·.toList == word)

def isKeyword (word : Text) : Bool := keywords.any (·.toList == word)

def isFunction (name : Text) : Bool := functions.any (·.toList == name)

end QueryInk.Vocabulary

import QueryInk.Proofs.Token.Rules

/-! The characters and words of the language, written out. The classes and tables that the
rules use agree with them. -/

namespace QueryInk.Alphabet
open Computability Text

/-- The code points with the property White_Space. -/
def blanks : List Nat :=
  [0x09, 0x0A, 0x0B, 0x0C, 0x0D, 0x20, 0x85, 0xA0, 0x1680, 0x2000, 0x2001, 0x2002, 0x2003, 0x2004,
   0x2005, 0x2006, 0x2007, 0x2008, 0x2009, 0x200A, 0x2028, 0x2029, 0x202F, 0x205F, 0x3000]

def letters : Text := "ABCDEFGHIJKLMNOPQRSTUVWXYZabcdefghijklmnopqrstuvwxyz".toList

/-- `[A-Za-z0-9_-]` -/
def nameChars : Text := letters ++ "0123456789_-".toList

/-- The quotes of strings and of names. -/
def quotes : List Char := ['"', '\'', '\x60']

def symbols : Text := ".[]\x7b\x7d(),@#;:?+-*/%|=<>^&!~".toList

/-- Operators of two characters. -/
def pairs : List Text :=
  [['.', '.'], [':', '='], ['!', '='], ['>', '='], ['<', '='], ['*', '*'], ['~', '>']]

def wordOperators : List String := ["and", "or", "in"]

def keywords : List String := ["true", "false", "null"]

/-- The names of the standard functions, those that came later at the end. -/
def functions : List String :=
  ["string", "length", "substring", "substringBefore", "substringAfter", "uppercase", "lowercase",
   "trim", "pad", "contains", "split", "join", "match", "replace", "now", "fromMillis",
   "formatNumber", "formatBase", "base64encode", "base64decode", "number", "abs", "floor", "ceil",
   "round", "power", "sqrt", "random", "millis", "toMillis", "sum", "max", "min", "average",
   "boolean", "not", "exists", "count", "append", "sort", "reverse", "shuffle", "zip", "keys",
   "lookup", "spread", "merge", "sift", "each", "map", "filter", "reduce",
   "type", "distinct", "single", "eval", "error", "assert", "encodeUrl", "encodeUrlComponent",
   "decodeUrl", "decodeUrlComponent", "formatInteger", "parseInteger", "partition"]

/-! ## Classes of characters -/

theorem mem_iff_toNat {c : Char} {table : Text} : c ∈ table ↔ c.toNat ∈ table.map Char.toNat := by
  simp [Char.toNat_inj]

theorem isBlank_iff {c : Char} : isBlank c = true ↔ c.toNat ∈ blanks := by
  have ranges : blanks =
      blankRanges.flatMap fun range => List.range' range.1 (range.2 + 1 - range.1) := by
    decide
  rw [ranges, isBlank, List.any_eq_true, List.mem_flatMap]
  refine exists_congr fun range => and_congr_right fun _ => ?_
  rw [List.mem_range'_1, Bool.and_eq_true, decide_eq_true_eq, decide_eq_true_eq]
  omega

theorem isWordChar_iff (c : Char) : isWordChar c = true ↔ c ∈ letters := by
  have codes : letters.map Char.toNat = List.range' 65 26 ++ List.range' 97 26 := by
    decide +kernel
  rw [mem_iff_toNat, codes, List.mem_append, List.mem_range'_1, List.mem_range'_1, isWordChar,
    isAlpha_iff]
  omega

theorem isNameChar_iff (c : Char) : isNameChar c = true ↔ c ∈ nameChars := by
  have codes : "0123456789_-".toList.map Char.toNat = List.range' 48 10 ++ [95, 45] := by
    decide +kernel
  have digit : c.isDigit = true ↔ c.toNat ∈ List.range' 48 10 := by
    rw [Decimal.isDigit_iff, List.mem_range'_1]
    omega
  have other : c = '_' ∨ c = '-' ↔ c.toNat ∈ [95, 45] := by
    simp [← Char.toNat_inj]
  rw [nameChars, List.mem_append, ← isWordChar_iff, mem_iff_toNat, codes, List.mem_append,
    ← digit, ← other]
  simp only [isNameChar, isWordChar, Char.isAlphanum, Bool.or_eq_true, beq_iff_eq, or_assoc]

/-- `[A-Za-z0-9_-]*` -/
def nameWords : Language Char := (oneOf nameChars.contains)∗

/-- `[A-Za-z]*` -/
def bareWords : Language Char := (oneOf letters.contains)∗

theorem nameWords_eq : nameWords = (oneOf isNameChar)∗ := by
  have same : nameChars.contains = isNameChar := by
    funext c
    rw [Bool.eq_iff_iff, List.contains_iff_mem, isNameChar_iff]
  rw [nameWords, same]

theorem bareWords_eq : bareWords = (oneOf isWordChar)∗ := by
  have same : letters.contains = isWordChar := by
    funext c
    rw [Bool.eq_iff_iff, List.contains_iff_mem, isWordChar_iff]
  rw [bareWords, same]

theorem mem_quotes {c : Char} : c ∈ quotes ↔ isQuote c = true ∨ c = Cut.backtick := by
  simp [quotes, isQuote, Cut.backtick, or_assoc]

theorem isSymbol_iff {c : Char} : Vocabulary.isSymbol c = true ↔ c ∈ symbols := by
  have same : Vocabulary.symbols = symbols := by decide +kernel
  rw [Vocabulary.isSymbol, List.contains_iff_mem, same]

/-! ## Words -/

theorem map_pairs : Vocabulary.pairs.map String.toList = pairs := by
  decide +kernel

theorem mem_pairs {op : Text} : op ∈ pairs ↔ ∃ word ∈ Vocabulary.pairs, word.toList = op := by
  rw [← map_pairs, List.mem_map]

theorem forall_pairs {t : Text} :
    (∀ op ∈ pairs, ¬ op <+: t) ↔ ∀ word ∈ Vocabulary.pairs, ¬ word.toList <+: t := by
  rw [← map_pairs, List.forall_mem_map]

theorem any_toList_iff {table : List String} {w : Text} :
    table.any (·.toList == w) = true ↔ String.ofList w ∈ table := by
  simp only [List.any_eq_true, beq_iff_eq]
  constructor
  · rintro ⟨word, listed, rfl⟩
    rwa [String.ofList_toList]
  · intro listed
    exact ⟨String.ofList w, listed, String.toList_ofList⟩

theorem isWordOperator_iff {w : Text} :
    Vocabulary.isWordOperator w = true ↔ String.ofList w ∈ wordOperators := any_toList_iff

theorem isKeyword_iff {w : Text} :
    Vocabulary.isKeyword w = true ↔ String.ofList w ∈ keywords := any_toList_iff

theorem isFunction_iff {name : Text} :
    Vocabulary.isFunction name = true ↔ String.ofList name ∈ functions := by
  have same : Vocabulary.functions.Perm functions := by decide +kernel
  rw [Vocabulary.isFunction, any_toList_iff, same.mem_iff]

end QueryInk.Alphabet

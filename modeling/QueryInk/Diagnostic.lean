import QueryInk.Document

namespace QueryInk

structure Diagnostic where
  line : Nat
  column : Nat
  kind : Kind
  text : Text
  deriving DecidableEq, Repr

/-- The column `n` bytes after `column`, where the text starts. -/
def Text.columnFrom (column : Nat) : Nat → Text → Nat
  | 0, _ => column
  | _ + 1, [] => column
  | n + 1, c :: t => columnFrom (column + 1) (n + 1 - c.utf8Size) t

/-- The column of a character boundary of a line. -/
def Text.column (line : Text) (offset : Nat) : Nat := columnFrom 1 offset line

theorem Text.columnFrom_eq (column n : Nat) (t : Text) :
    columnFrom column n t = column + (takeBytes n t).length := by
  induction t generalizing column n with
  | nil => cases n <;> rfl
  | cons c t ih =>
    cases n with
    | zero => rfl
    | succ n =>
      simp only [columnFrom, takeBytes, List.length_cons, ih]
      omega

/-- The column of a byte offset, if it is a character boundary of the line. -/
def Text.column? (line : Text) (offset : Nat) : Option Nat :=
  if isBoundary line offset then some (column line offset) else none

namespace Diagnostic

def display (d : Diagnostic) : Text :=
  Nat.toDigits 10 d.line ++ ':' :: (Nat.toDigits 10 d.column ++ ": ".toList ++
    d.kind.style.toList ++ " '".toList ++ d.text ++ ['\''])

def ofToken (line : Line) (token : Token) : Diagnostic :=
  ⟨line.number, Text.column line.text token.span.start, token.kind, token.text line.text⟩

def ofLine (line : Line) : List Diagnostic := line.errors.map (ofToken line)

end Diagnostic

/-- The number of tokens of a document and what is wrong with them. -/
structure Findings where
  tokens : Nat
  diagnostics : List Diagnostic
  deriving DecidableEq, Repr

def Findings.ofText (text : Text) : Findings :=
  let lines := Document.lines text
  ⟨(lines.flatMap (·.tokens)).length, lines.flatMap Diagnostic.ofLine⟩

end QueryInk

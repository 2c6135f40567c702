import QueryInk.Text.Lines
import QueryInk.Token.Stream

namespace QueryInk

/-- A line with its tokens. `index` counts from zero. -/
structure Line where
  index : Nat
  text : Text
  tokens : List Token
  deriving DecidableEq, Repr

/-- A piece of a line: a token if it has a kind, else the text between two tokens. -/
structure Segment where
  kind : Option Kind
  text : Text
  deriving DecidableEq, Repr

namespace Line

def ofText (index : Nat) (text : Text) : Line := ⟨index, text, Token.stream text⟩

/-- The number by which reports call the line. -/
def number (line : Line) : Nat := line.index + 1

def lexemes (line : Line) : List (Token × Text) :=
  line.tokens.map fun token => (token, token.text line.text)

def errors (line : Line) : List Token := line.tokens.filter (·.kind.isError)

def hasErrors (line : Line) : Bool := line.tokens.any (·.kind.isError)

/-- Cuts the text that starts at byte `position` of its line along the tokens that are left. -/
def segmentsFrom (position : Nat) (text : Text) : List Token → List Segment
  | [] => if text.isEmpty then [] else [⟨none, text⟩]
  | token :: tokens =>
    let gap := token.span.start - position
    let after := Text.dropBytes gap text
    let size := token.span.stop - token.span.start
    let rest := ⟨token.kind, Text.takeBytes size after⟩ ::
      segmentsFrom token.span.stop (Text.dropBytes size after) tokens
    if gap = 0 then rest else ⟨none, Text.takeBytes gap text⟩ :: rest

def segments (line : Line) : List Segment := segmentsFrom 0 line.text line.tokens

end Line

namespace Document

def lines (text : Text) : List Line := (Text.lines text).mapIdx Line.ofText

end Document

end QueryInk

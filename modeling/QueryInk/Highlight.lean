import QueryInk.Document
import QueryInk.Theme

namespace QueryInk

structure Rendered where
  text : Text
  tokens : Nat
  errors : Nat
  deriving DecidableEq, Repr

namespace Highlight

def escape : Char := '\x1b'

/-- The parameters of the rendition of a kind: an underline for errors, then the colour. -/
def parameters (theme : Theme) (kind : Kind) : List Nat :=
  (if kind.isError then [4] else []) ++ (theme kind.role).parameter?.toList

/-- The sequence that sets a rendition. Parameter 0 resets it. -/
def rendition (parameters : List Nat) : Text :=
  escape :: '[' :: ([';'].intercalate (parameters.map (Nat.toDigits 10)) ++ ['m'])

def paint (theme : Theme) (kind : Kind) (piece : Text) : Text :=
  let parameters := parameters theme kind
  if parameters.isEmpty then piece else rendition parameters ++ piece ++ rendition [0]

def renderSegment (theme : Theme) (color : Bool) (segment : Segment) : Text :=
  match segment.kind with
  | some kind => if color then paint theme kind segment.text else segment.text
  | none => segment.text

def renderLine (theme : Theme) (color : Bool) (line : Line) : Text :=
  line.segments.flatMap (renderSegment theme color) ++ ['\n']

def render (theme : Theme) (color : Bool) (text : Text) : Rendered :=
  let lines := Document.lines text
  { text := lines.flatMap (renderLine theme color)
    tokens := (lines.flatMap (·.tokens)).length
    errors := (lines.flatMap (·.errors)).length }

end Highlight

end QueryInk

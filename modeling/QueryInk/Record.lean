import QueryInk.Document
import QueryInk.Json.Rows

namespace QueryInk

structure Record where
  source : String
  line : Nat
  start : Nat
  stop : Nat
  kind : Kind
  text : Text
  deriving DecidableEq, Repr

namespace Record

def style (r : Record) : String := r.kind.style

def ofLexeme (source : String) (line : Line) (lexeme : Token × Text) : Record :=
  ⟨source, line.number, lexeme.1.span.start, lexeme.1.span.stop, lexeme.1.kind, lexeme.2⟩

def ofText (source : String) (text : Text) : List Record :=
  (Document.lines text).flatMap fun line => line.lexemes.map (ofLexeme source line)

/-- The records whose style is that of an error. -/
def errors (records : List Record) : List Record :=
  records.filter fun r => (Kind.ofStyle? r.style).any Kind.isError

def location (r : Record) : Text :=
  Nat.toDigits 10 r.line ++ ':' :: (Nat.toDigits 10 r.start ++ '-' :: Nat.toDigits 10 r.stop)

/-- The dump of a record as text, with the name of the source in front on request. -/
def display (withSource : Bool) (r : Record) : Text :=
  (if withSource then r.source.toList ++ [':'] else []) ++ r.location ++
    '\t' :: (r.style.toList ++ '\t' :: r.text)

def toRow (r : Record) : Json.Row :=
  [("source", .text r.source.toList), ("line", .count r.line), ("start", .count r.start),
   ("end", .count r.stop), ("style", .text r.style.toList), ("text", .text r.text)]

def dumpJson (records : List Record) : Text := Json.print (records.map toRow)

end Record

end QueryInk

import QueryInk.Text.Bytes
import QueryInk.Token.Kind

namespace QueryInk

/-- The bytes from `start` up to `stop`. Spans from outside need not be in order. -/
structure Span where
  start : Nat
  stop : Nat
  deriving DecidableEq, Repr

namespace Span

def length? (s : Span) : Option Nat := if s.start ≤ s.stop then some (s.stop - s.start) else none

def isEmpty (s : Span) : Bool := s.start == s.stop

def text? (s : Span) (line : Text) : Option Text := Text.slice? line s.start s.stop

end Span

structure Token where
  kind : Kind
  span : Span
  deriving DecidableEq, Repr

namespace Token

/-- The lexeme of a token of `line`. -/
def text (token : Token) (line : Text) : Text := Text.slice line token.span.start token.span.stop

end Token

end QueryInk

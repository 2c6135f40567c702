import QueryInk.Text.Bytes

namespace QueryInk

structure Cursor where
  source : Text
  position : Nat
  deriving DecidableEq, Repr

namespace Cursor

/-- A cursor at the first character boundary at or after `offset`. -/
def ofOffset (source : Text) (offset : Nat) : Cursor := ⟨source, Text.snap source offset⟩

def remaining (c : Cursor) : Text := Text.dropBytes c.position c.source

def atEnd (c : Cursor) : Bool := Text.width c.source ≤ c.position

/-- The byte `n` bytes ahead as a character, where it and all bytes before it are ASCII: there
bytes count characters. -/
def peekAscii? (c : Cursor) (n : Nat) : Option Char :=
  let bytes := Text.utf8 c.remaining
  if (bytes.take (n + 1)).all (· < 0x80) then bytes[n]?.map fun b => Char.ofNat b.toNat else none

/-- The character `n` characters ahead, or NUL past the end. -/
def peek (c : Cursor) (n : Nat) : Char :=
  (c.peekAscii? n).getD (c.remaining[n]?.getD '\x00')

def current (c : Cursor) : Char := c.peek 0

/-- Moves past `t`, which comes next. -/
def skip (c : Cursor) (t : Text) : Cursor := { c with position := c.position + Text.width t }

/-- Moves past one character. At the end it stays. -/
def advance (c : Cursor) : Cursor := c.skip (c.remaining.take 1)

/-- Moves past `n` characters, or to the end if fewer remain. -/
def advanceBy (c : Cursor) : Nat → Cursor
  | 0 => c
  | n + 1 => if c.atEnd then c else c.advance.advanceBy n

/-- At the end nothing is eaten, though NUL stands for the current character there. -/
def eatChar (c : Cursor) (expected : Char) : Bool × Cursor :=
  if !c.atEnd && c.current == expected then (true, c.advance) else (false, c)

def eatText (c : Cursor) (expected : Text) : Bool × Cursor :=
  if expected.isPrefixOf c.remaining then (true, c.skip expected) else (false, c)

/-- Moves past the longest run of characters that satisfy `p`, and counts them. -/
def eatWhile (c : Cursor) (p : Char → Bool) : Nat × Cursor :=
  let run := c.remaining.takeWhile p
  (run.length, c.skip run)

/-- Moves past the next `delimiter`, or to the end if there is none. -/
def eatThrough (c : Cursor) (delimiter : Char) : Bool × Cursor :=
  match c.remaining.dropWhile (· != delimiter) with
  | [] => (false, { c with position := Text.width c.source })
  | d :: _ => (true, c.skip (c.remaining.takeWhile (· != delimiter) ++ [d]))

/-- The text from byte `start` up to the cursor. -/
def sliceFrom? (c : Cursor) (start : Nat) : Option Text := Text.slice? c.source start c.position

end Cursor

end QueryInk

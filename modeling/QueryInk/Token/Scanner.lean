import QueryInk.Text.Cursor
import QueryInk.Token.Basic
import QueryInk.Token.Cut

namespace QueryInk

/-- `tokenStart` is where the last token read by `next` begins. -/
structure Scanner where
  cursor : Cursor
  tokenStart : Nat
  deriving DecidableEq, Repr

namespace Scanner

def ofOffset (line : Text) (offset : Nat) : Scanner :=
  let cursor := Cursor.ofOffset line offset
  ⟨cursor, cursor.position⟩

def ofLine (line : Text) : Scanner := ofOffset line 0

def position (s : Scanner) : Nat := s.cursor.position

/-- The text from the start of the last token up to the position. -/
def tokenText? (s : Scanner) : Option Text := s.cursor.sliceFrom? s.tokenStart

/-- Skips blanks and reads a token. At the end of the line there is none. -/
def next (s : Scanner) : Option Token × Scanner :=
  let (_, cursor) := s.cursor.eatWhile Text.isBlank
  match cursor.remaining with
  | [] => (none, { s with cursor })
  | c :: t =>
    let cut := Cut.first c t
    let after := cursor.skip cut.taken
    (some ⟨cut.kind, cursor.position, after.position⟩, ⟨after, cursor.position⟩)

/-- Applies one rule at the position, as it is. The token start stays. -/
def take (s : Scanner) (rule : Text → Cut) : Kind × Scanner :=
  let cut := rule s.cursor.remaining
  (cut.kind, { s with cursor := s.cursor.skip cut.taken })

/-- As `take`, for a rule that may find nothing. -/
def take? (s : Scanner) (rule : Text → Option Cut) : Option Kind × Scanner :=
  match rule s.cursor.remaining with
  | some cut => (some cut.kind, { s with cursor := s.cursor.skip cut.taken })
  | none => (none, s)

/-- A token moves the position forward, and only from before the end of the line. -/
theorem next_progress {s s' : Scanner} {token : Token} (h : s.next = (some token, s')) :
    s'.cursor.source = s.cursor.source ∧ s.position < s'.position ∧
      s.position < Text.width s.cursor.source := by
  simp only [next, Cursor.eatWhile] at h
  split at h
  · simp at h
  · next c t found =>
    simp only [Prod.mk.injEq] at h
    obtain ⟨-, rfl⟩ := h
    have taken := Text.width_pos (Cut.first_ne_nil c t)
    refine ⟨rfl, ?_, ?_⟩
    · simp only [position, Cursor.skip]; omega
    · apply Nat.lt_of_not_le
      intro past
      have : Text.dropBytes
          (s.cursor.position + Text.width (s.cursor.remaining.takeWhile Text.isBlank))
          s.cursor.source = [] := Text.dropBytes_eq_nil (Nat.le_add_right_of_le past)
      simp [Cursor.remaining, Cursor.skip] at found this
      simp [found] at this

/-- All tokens from the position on. -/
def toList (s : Scanner) : List Token :=
  match _h : s.next with
  | (none, _) => []
  | (some token, s') => token :: toList s'
termination_by Text.width s.cursor.source - s.position
decreasing_by
  obtain ⟨same, forward, inside⟩ := next_progress _h
  rw [same]
  omega

end Scanner

/-- The token found at or after a byte offset of a line. -/
def Token.scan (line : Text) (offset : Nat) : Option Token := (Scanner.ofOffset line offset).next.1

end QueryInk

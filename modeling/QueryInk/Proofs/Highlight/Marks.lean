import QueryInk.Highlight
import QueryInk.Proofs.Text.Longest

/-!
# Reading renditions back

Sent to a terminal, a text is a row of marks: characters to show and renditions to
set. A text written piece by piece, each plain or in a rendition of its own, is
read back as those pieces (`marks_write`).
-/

namespace QueryInk.Highlight
open Text

inductive Mark where
  | char (c : Char)
  /-- Sets a rendition; the parameters are as written. -/
  | rendition (parameters : Text)
  deriving DecidableEq, Repr

/-- The characters of parameters, which are numbers with semicolons between them. -/
def isParameter (c : Char) : Bool := c.isDigit || c == ';'

/-- A rendition as it is sent. -/
def sequence (parameters : Text) : Text := '\x1b' :: '[' :: (parameters ++ ['m'])

/-- The parameters of the rendition at the front of a text, and the text after it. -/
def readRendition? : Text → Option (Text × Text)
  | c :: '[' :: t =>
    match t.dropWhile isParameter with
    | 'm' :: rest => if c = '\x1b' then some (t.takeWhile isParameter, rest) else none
    | _ => none
  | _ => none

theorem readRendition?_iff {t parameters rest : Text} :
    readRendition? t = some (parameters, rest) ↔
      t = sequence parameters ++ rest ∧ ∀ c ∈ parameters, isParameter c = true := by
  constructor
  · intro h
    unfold readRendition? at h
    split at h
    · next c t =>
      split at h
      · next rest' left =>
        split at h
        · next esc =>
          simp only [Option.some.injEq, Prod.mk.injEq] at h
          obtain ⟨rfl, rfl⟩ := h
          have whole := List.takeWhile_append_dropWhile (p := isParameter) (l := t)
          rw [left] at whole
          refine ⟨?_, fun _ => List.mem_takeWhile_imp⟩
          rw [esc, sequence, List.cons_append, List.cons_append, List.append_assoc]
          exact congrArg ('\x1b' :: '[' :: ·) whole.symm
        · cases h
      · cases h
    · cases h
  · rintro ⟨rfl, inside⟩
    have stop : ∀ c ∈ ('m' :: rest).head?, isParameter c = false := by
      rintro c ⟨⟩
      rfl
    simp [sequence, readRendition?, takeWhile_run inside stop, dropWhile_run inside stop]

theorem readRendition?_length {t parameters rest : Text}
    (h : readRendition? t = some (parameters, rest)) : rest.length < t.length := by
  rw [(readRendition?_iff.1 h).1]
  simp [sequence]
  omega

/-- The marks of a text. Where no rendition starts, one character is shown. -/
def marks : Text → List Mark
  | [] => []
  | c :: t =>
    match _h : readRendition? (c :: t) with
    | some (parameters, rest) => .rendition parameters :: marks rest
    | none => .char c :: marks t
termination_by t => t.length
decreasing_by
  · exact readRendition?_length _h
  · simp

theorem marks_nil : marks [] = [] := by
  rw [marks]

/-- A rendition starts with an escape character only. -/
theorem marks_char {c : Char} (h : c ≠ '\x1b') (t : Text) :
    marks (c :: t) = .char c :: marks t := by
  rw [marks]
  split
  · next read =>
    have front := (readRendition?_iff.1 read).1
    exact absurd (List.cons.inj front).1 h
  · rfl

theorem marks_plain {s : Text} (h : '\x1b' ∉ s) (t : Text) :
    marks (s ++ t) = s.map .char ++ marks t := by
  induction s with
  | nil => rfl
  | cons c s ih =>
    rw [List.mem_cons, not_or] at h
    rw [List.cons_append, marks_char (Ne.symm h.1), ih h.2, List.map_cons, List.cons_append]

theorem marks_sequence {parameters : Text} (h : ∀ c ∈ parameters, isParameter c = true)
    (t : Text) : marks (sequence parameters ++ t) = .rendition parameters :: marks t := by
  have read : readRendition? (sequence parameters ++ t) = some (parameters, t) :=
    readRendition?_iff.2 ⟨rfl, h⟩
  rw [sequence, List.cons_append] at read ⊢
  rw [marks]
  split
  · next other =>
    obtain ⟨rfl, rfl⟩ := Prod.mk.inj (Option.some.inj (other.symm.trans read))
    rfl
  · simp_all

/-! ## What is said of the marks -/

/-- The parameters that reset all. -/
def reset : Text := ['0']

def Mark.shown? : Mark → Option Char
  | char c => some c
  | rendition _ => none

/-- The text with every rendition deleted. -/
def erase (t : Text) : Text := (marks t).filterMap Mark.shown?

/-- Renditions are set and reset in turn, and none is set at a line feed or at the end. `isSet`
says whether one is set to begin with. -/
def alternates : Bool → List Mark → Bool
  | isSet, [] => !isSet
  | isSet, .char c :: more => !(isSet && c == '\n') && alternates isSet more
  | isSet, .rendition parameters :: more =>
    (parameters == reset) == isSet && alternates (!isSet) more

/-- The characters up to the next rendition. -/
def shownFirst : List Mark → Text
  | .char c :: more => c :: shownFirst more
  | _ => []

/-- The parameters of each rendition that is set, with what is shown in it. -/
def painted : List Mark → List (Text × Text)
  | [] => []
  | .char _ :: more => painted more
  | .rendition parameters :: more =>
    if parameters = reset then painted more else (parameters, shownFirst more) :: painted more

/-! ## Texts written in pieces -/

/-- A piece of text and the parameters of the rendition it is shown in, if any. -/
structure Piece where
  style : Option Text
  text : Text

namespace Piece

def write (piece : Piece) : Text :=
  match piece.style with
  | none => piece.text
  | some parameters => sequence parameters ++ (piece.text ++ sequence reset)

def marks (piece : Piece) : List Mark :=
  match piece.style with
  | none => piece.text.map .char
  | some parameters => .rendition parameters :: (piece.text.map .char ++ [.rendition reset])

/-- The text holds no rendition, and one that is set around it ends in its line. -/
structure Clean (piece : Piece) : Prop where
  plain : '\x1b' ∉ piece.text
  parameters : ∀ parameters ∈ piece.style, ∀ c ∈ parameters, isParameter c = true
  sets : ∀ parameters ∈ piece.style, parameters ≠ reset
  within : piece.style.isSome = true → '\n' ∉ piece.text

end Piece

theorem marks_piece {piece : Piece} (clean : piece.Clean) (t : Text) :
    marks (piece.write ++ t) = piece.marks ++ marks t := by
  obtain ⟨style, text⟩ := piece
  cases style with
  | none => exact marks_plain clean.plain t
  | some parameters =>
    have digits : ∀ c ∈ reset, isParameter c = true := List.forall_mem_singleton.2 rfl
    simp only [Piece.write, Piece.marks, List.append_assoc, List.cons_append, List.nil_append]
    rw [marks_sequence (clean.parameters _ rfl), marks_plain clean.plain, marks_sequence digits]

theorem marks_write {pieces : List Piece} (clean : ∀ piece ∈ pieces, piece.Clean) :
    marks (pieces.flatMap Piece.write) = pieces.flatMap Piece.marks := by
  induction pieces with
  | nil => exact marks_nil
  | cons piece pieces ih =>
    obtain ⟨first, later⟩ := List.forall_mem_cons.1 clean
    rw [List.flatMap_cons, List.flatMap_cons, marks_piece first, ih later]

theorem shown_piece (piece : Piece) : piece.marks.filterMap Mark.shown? = piece.text := by
  have shown (t : Text) : (t.map Mark.char).filterMap Mark.shown? = t := by
    rw [List.filterMap_map]
    exact List.filterMap_some
  obtain ⟨style, text⟩ := piece
  cases style with
  | none => exact shown text
  | some parameters =>
    rw [Piece.marks, List.filterMap_cons_none rfl, List.filterMap_append, shown]
    exact List.append_nil text

/-- Deleting the renditions leaves the text of the pieces. -/
theorem erase_write {pieces : List Piece} (clean : ∀ piece ∈ pieces, piece.Clean) :
    erase (pieces.flatMap Piece.write) = pieces.flatMap (·.text) := by
  rw [erase, marks_write clean, List.filterMap_flatMap]
  exact List.flatMap_congr fun piece _ => shown_piece piece

theorem alternates_chars {isSet : Bool} {t : Text} (h : isSet = true → '\n' ∉ t)
    (more : List Mark) : alternates isSet (t.map .char ++ more) = alternates isSet more := by
  induction t with
  | nil => rfl
  | cons c t ih =>
    have later : isSet = true → '\n' ∉ t := fun set feed => h set (List.mem_cons_of_mem c feed)
    have here : (isSet && c == '\n') = false := by
      rw [Bool.and_eq_false_imp]
      rintro set
      rw [beq_eq_false_iff_ne]
      rintro rfl
      exact h set List.mem_cons_self
    rw [List.map_cons, List.cons_append, alternates, here, ih later]
    rfl

theorem alternates_piece {piece : Piece} (clean : piece.Clean) (more : List Mark) :
    alternates false (piece.marks ++ more) = alternates false more := by
  obtain ⟨style, text⟩ := piece
  cases style with
  | none => exact alternates_chars (fun set => absurd set Bool.false_ne_true) more
  | some parameters =>
    have sets : (parameters == reset) = false := beq_eq_false_iff_ne.2 (clean.sets _ rfl)
    simp only [Piece.marks, List.cons_append, List.append_assoc, List.nil_append]
    rw [alternates, sets, Bool.not_false, alternates_chars fun _ => clean.within rfl]
    rfl

/-- In a text of pieces, renditions are set and reset in turn. -/
theorem alternates_write {pieces : List Piece} (clean : ∀ piece ∈ pieces, piece.Clean) :
    alternates false (marks (pieces.flatMap Piece.write)) = true := by
  rw [marks_write clean]
  induction pieces with
  | nil => rfl
  | cons piece pieces ih =>
    obtain ⟨first, later⟩ := List.forall_mem_cons.1 clean
    rw [List.flatMap_cons, alternates_piece first, ih later]

theorem painted_chars (t : Text) (more : List Mark) :
    painted (t.map .char ++ more) = painted more := by
  induction t with
  | nil => rfl
  | cons c t ih => exact ih

theorem shownFirst_chars (t parameters : Text) (more : List Mark) :
    shownFirst (t.map .char ++ .rendition parameters :: more) = t := by
  induction t with
  | nil => rfl
  | cons c t ih => exact congrArg (c :: ·) ih

/-- The piece with its rendition, if it is shown in one. -/
def Piece.painted? (piece : Piece) : Option (Text × Text) := piece.style.map (·, piece.text)

theorem painted_piece {piece : Piece} (clean : piece.Clean) (more : List Mark) :
    painted (piece.marks ++ more) = piece.painted?.toList ++ painted more := by
  obtain ⟨style, text⟩ := piece
  cases style with
  | none => exact painted_chars text more
  | some parameters =>
    simp only [Piece.marks, List.cons_append, List.append_assoc, List.nil_append]
    rw [painted, if_neg (clean.sets _ rfl), shownFirst_chars, painted_chars, painted,
      if_pos rfl]
    rfl

/-- Each rendition that is set shows its piece. -/
theorem painted_write {pieces : List Piece} (clean : ∀ piece ∈ pieces, piece.Clean) :
    painted (marks (pieces.flatMap Piece.write)) = pieces.filterMap Piece.painted? := by
  rw [marks_write clean]
  induction pieces with
  | nil => rfl
  | cons piece pieces ih =>
    obtain ⟨first, later⟩ := List.forall_mem_cons.1 clean
    rw [List.flatMap_cons, painted_piece first, ih later, List.filterMap_cons]
    cases piece.painted? <;> rfl

end QueryInk.Highlight

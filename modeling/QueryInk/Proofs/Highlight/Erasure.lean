import QueryInk.Proofs.Document.Segments
import QueryInk.Proofs.Highlight.Marks

namespace QueryInk.Highlight
open Text

/-! ## The parameters of a rendition -/

/-- Parameters as written. -/
def parameterText (parameters : List Nat) : Text :=
  [';'].intercalate (parameters.map (Nat.toDigits 10))

/-- What is sent is what a terminal reads. -/
theorem rendition_eq (parameters : List Nat) :
    rendition parameters = sequence (parameterText parameters) := rfl

theorem isParameter_toDigits (n : Nat) : ∀ c ∈ Nat.toDigits 10 n, isParameter c = true := by
  intro c member
  have digit := Nat.isDigit_of_mem_toDigits (by decide) (by decide) member
  simp [isParameter, digit]

theorem isParameter_parameterText (parameters : List Nat) :
    ∀ c ∈ parameterText parameters, isParameter c = true := by
  unfold parameterText
  induction parameters with
  | nil => simp
  | cons n more ih =>
    cases more with
    | nil =>
      rw [List.map_singleton, List.intercalate_singleton]
      exact isParameter_toDigits n
    | cons m more =>
      rw [List.map_cons, List.map_cons, List.intercalate_cons_cons, ← List.map_cons]
      have separator : ∀ c ∈ [';'], isParameter c = true := List.forall_mem_singleton.2 rfl
      exact List.forall_mem_append.2
        ⟨List.forall_mem_append.2 ⟨isParameter_toDigits n, separator⟩, ih⟩

/-- The first parameter underlines. -/
def underlines (parameters : Text) : Bool := parameters.takeWhile (· != ';') == ['4']

/-- The rendition of a kind is no reset, and it underlines iff the kind is an error. -/
theorem parameterText_of_kind {theme : Theme} {kind : Kind} (h : parameters theme kind ≠ []) :
    parameterText (parameters theme kind) ≠ reset ∧
      underlines (parameterText (parameters theme kind)) = kind.isError := by
  -- only the colour and whether the kind is an error matter
  unfold parameters at h ⊢
  generalize theme kind.role = color at h ⊢
  generalize kind.isError = bad at h ⊢
  cases bad with
  | false =>
    cases color with
    | none => exact absurd rfl h
    | normal hue => cases hue <;> decide
    | bright hue => cases hue <;> decide
  | true =>
    cases color with
    | none => decide
    | normal hue => cases hue <;> decide
    | bright hue => cases hue <;> decide

/-! ## A document in pieces -/

/-- The parameters that a segment is painted with, if any. -/
def styleOf (theme : Theme) (segment : Segment) : Option Text :=
  segment.kind.bind fun kind =>
    if (parameters theme kind).isEmpty then none
    else some (parameterText (parameters theme kind))

def segmentPiece (theme : Theme) (segment : Segment) : Piece :=
  ⟨styleOf theme segment, segment.text⟩

def linePieces (theme : Theme) (line : Line) : List Piece :=
  line.segments.map (segmentPiece theme) ++ [⟨none, ['\n']⟩]

def pieces (theme : Theme) (text : Text) : List Piece :=
  (Document.lines text).flatMap (linePieces theme)

theorem renderSegment_color (theme : Theme) (segment : Segment) :
    renderSegment theme true segment = (segmentPiece theme segment).write := by
  obtain ⟨kind, text⟩ := segment
  cases kind with
  | none => rfl
  | some kind =>
    simp only [renderSegment, paint, segmentPiece, styleOf, Option.bind_some, ↓reduceIte]
    by_cases plain : (parameters theme kind).isEmpty = true
    · rw [if_pos plain, if_pos plain]
      rfl
    · rw [if_neg plain, if_neg plain, rendition_eq, rendition_eq, List.append_assoc]
      rfl

theorem renderSegment_plain (theme : Theme) (segment : Segment) :
    renderSegment theme false segment = segment.text := by
  obtain ⟨kind, text⟩ := segment
  cases kind <;> rfl

theorem render_flatMap {theme : Theme} {color : Bool} {written : Piece → Text} (text : Text)
    (segments : ∀ segment,
      renderSegment theme color segment = written (segmentPiece theme segment))
    (feed : written ⟨none, ['\n']⟩ = ['\n']) :
    (render theme color text).text = (pieces theme text).flatMap written := by
  simp only [render, pieces, List.flatMap_assoc]
  refine List.flatMap_congr fun line _ => ?_
  rw [renderLine, linePieces, List.flatMap_append, List.flatMap_map, List.flatMap_singleton, feed]
  congr 1
  exact List.flatMap_congr fun segment _ => segments segment

/-- With colour the pieces are written, without it only their text. -/
theorem render_pieces (theme : Theme) (text : Text) :
    (render theme true text).text = (pieces theme text).flatMap Piece.write ∧
      (render theme false text).text = (pieces theme text).flatMap (·.text) :=
  ⟨render_flatMap text (renderSegment_color theme) rfl,
    render_flatMap text (renderSegment_plain theme) rfl⟩

theorem exists_kind_of_styleOf {theme : Theme} {segment : Segment} {ps : Text}
    (h : ps ∈ styleOf theme segment) :
    ∃ kind, parameters theme kind ≠ [] ∧ ps = parameterText (parameters theme kind) := by
  obtain ⟨kind, -, painted⟩ := Option.bind_eq_some_iff.1 h
  split at painted
  · cases painted
  · next some_parameter =>
    exact ⟨kind, by simpa using some_parameter, (Option.some.inj painted).symm⟩

theorem clean_segment {theme : Theme} {text : Text} {line : Line} {segment : Segment}
    (plain : '\x1b' ∉ text) (listed : line ∈ Document.lines text)
    (h : segment ∈ line.segments) : (segmentPiece theme segment).Clean where
  plain := fun member => plain (Line.of_mem_segments listed h member).1
  parameters := by
    intro ps found
    obtain ⟨kind, -, rfl⟩ := exists_kind_of_styleOf found
    exact isParameter_parameterText _
  sets := by
    intro ps found
    obtain ⟨kind, some_parameter, rfl⟩ := exists_kind_of_styleOf found
    exact (parameterText_of_kind some_parameter).1
  within := fun _ member => (Line.of_mem_segments listed h member).2 rfl

theorem clean_pieces {text : Text} (theme : Theme) (plain : '\x1b' ∉ text) :
    ∀ piece ∈ pieces theme text, piece.Clean := by
  intro piece member
  obtain ⟨line, listed, member⟩ := List.mem_flatMap.1 member
  rcases List.mem_append.1 member with painted | feed
  · obtain ⟨segment, h, rfl⟩ := List.mem_map.1 painted
    exact clean_segment plain listed h
  · obtain rfl := List.mem_singleton.1 feed
    exact ⟨by decide, by simp, by simp, by simp⟩

/-! ## What is underlined -/

/-- The texts shown in a rendition whose first parameter underlines. -/
def underlined (t : Text) : List Text :=
  ((painted (marks t)).filter (underlines ·.1)).map (·.2)

def Piece.underlined? (piece : Piece) : Option Text :=
  if piece.style.any underlines then some piece.text else none

theorem filterMap_underlined (ps : List Piece) :
    ((ps.filterMap Piece.painted?).filter (underlines ·.1)).map (·.2) =
      ps.filterMap Piece.underlined? := by
  induction ps with
  | nil => rfl
  | cons piece ps ih =>
    obtain ⟨style, text⟩ := piece
    cases style with
    | none => exact ih
    | some parameters =>
      by_cases line : underlines parameters = true <;>
        simp [Piece.painted?, Piece.underlined?, line, ih]

/-- The text of a lexeme that is an error. -/
def errorText? (lexeme : Kind × Text) : Option Text :=
  if lexeme.1.isError then some lexeme.2 else none

/-- An error is underlined whatever its colour, and nothing else is. -/
theorem underlines_styleOf (theme : Theme) (kind : Kind) (text : Text) :
    (styleOf theme ⟨some kind, text⟩).any underlines = kind.isError := by
  rw [styleOf, Option.bind_some]
  by_cases plain : (parameters theme kind).isEmpty = true
  · rw [if_pos plain]
    cases bad : kind.isError with
    | false => rfl
    | true => simp [parameters, bad] at plain
  · rw [if_neg plain, Option.any_some]
    exact (parameterText_of_kind (by simpa using plain)).2

theorem underlined_segment (theme : Theme) (segment : Segment) :
    (segmentPiece theme segment).underlined? = (Line.lexeme? segment).bind errorText? := by
  obtain ⟨kind, text⟩ := segment
  cases kind with
  | none => rfl
  | some kind =>
    change (if (styleOf theme ⟨some kind, text⟩).any underlines then some text else none) =
      if kind.isError then some text else none
    rw [underlines_styleOf]

theorem filterMap_errorText (line : Line) :
    (line.lexemes.map fun (token, text) => (token.kind, text)).filterMap errorText? =
      line.errors.map (·.text line.text) := by
  rw [Line.lexemes, List.map_map, List.filterMap_map, Line.errors]
  induction line.tokens with
  | nil => rfl
  | cons token tokens ih =>
    by_cases bad : token.kind.isError = true <;> simp_all [errorText?]

theorem underlined_line {text : Text} {line : Line} (theme : Theme)
    (listed : line ∈ Document.lines text) :
    (linePieces theme line).filterMap Piece.underlined? =
      line.errors.map (·.text line.text) := by
  obtain ⟨t, -, eq⟩ := Document.mem_lines.1 listed
  have lexemes := Line.segments_lexemes line.index t
  rw [← eq] at lexemes
  rw [← filterMap_errorText, ← lexemes, List.filterMap_filterMap, linePieces,
    List.filterMap_append, List.filterMap_map]
  have segments : Piece.underlined? ∘ segmentPiece theme =
      fun segment => (Line.lexeme? segment).bind errorText? :=
    funext (underlined_segment theme)
  rw [segments]
  exact List.append_nil _

/-- In a document without escape characters, deleting the renditions takes the colour away and
nothing else, each rendition is reset before the next and before its line ends, and the errors
are what is underlined. -/
theorem color_erasure (theme : Theme) {text : Text} (plain : '\x1b' ∉ text) :
    let colored := render theme true text
    let uncolored := render theme false text
    (erase colored.text = uncolored.text ∧ colored.tokens = uncolored.tokens ∧
      colored.errors = uncolored.errors) ∧
    alternates false (marks colored.text) = true ∧
    underlined colored.text =
      (Document.lines text).flatMap fun line => line.errors.map (·.text line.text) := by
  intro colored uncolored
  have clean := clean_pieces theme plain
  obtain ⟨written, shown⟩ := render_pieces theme text
  refine ⟨⟨?_, rfl, rfl⟩, ?_, ?_⟩
  · rw [written, shown, erase_write clean]
  · rw [written, alternates_write clean]
  · rw [written, underlined, painted_write clean, filterMap_underlined, pieces,
      List.filterMap_flatMap]
    exact List.flatMap_congr fun line listed => underlined_line theme listed

/-- Errors on two lines, in a theme without colours. -/
theorem color_erasure_underlines :
    let text := "a 'b\n1e999 é".toList
    let colored := (render (fun _ => .none) true text).text
    '\x1b' ∉ text ∧
      String.ofList colored =
        "a \x1b[4m'b\x1b[0m\n\x1b[4m1e999\x1b[0m \x1b[4mé\x1b[0m\n" ∧
      erase colored = "a 'b\n1e999 é\n".toList ∧
      alternates false (marks colored) = true ∧
      underlined colored = ["'b".toList, "1e999".toList, "é".toList] := by
  intro text colored
  have plain : '\x1b' ∉ text := by decide
  obtain ⟨⟨erased, -⟩, resets, underlines⟩ := color_erasure (fun _ => .none) plain
  refine ⟨plain, ?_, erased.trans ?_, resets, underlines.trans ?_⟩
  · decide +kernel
  · decide +kernel
  · decide +kernel

end QueryInk.Highlight

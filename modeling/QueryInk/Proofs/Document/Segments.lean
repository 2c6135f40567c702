import QueryInk.Document
import QueryInk.Proofs.Text.Lines
import QueryInk.Proofs.Token.Run

namespace QueryInk
open Text

namespace Document

theorem mem_lines {text : Text} {line : Line} :
    line ∈ lines text ↔
      ∃ t, (Text.lines text)[line.index]? = some t ∧ line = Line.ofText line.index t := by
  simp only [lines, List.mem_mapIdx]
  constructor
  · rintro ⟨i, inside, rfl⟩
    exact ⟨_, List.getElem?_eq_getElem inside, rfl⟩
  · rintro ⟨t, found, eq⟩
    obtain ⟨inside, rfl⟩ := List.getElem?_eq_some_iff.1 found
    exact ⟨line.index, inside, eq.symm⟩

theorem text_of_mem_lines {text : Text} {line : Line} (listed : line ∈ lines text) :
    (Text.lines text)[line.index]? = some line.text := by
  obtain ⟨t, found, eq⟩ := mem_lines.1 listed
  rw [found, eq]
  rfl

theorem tokens_of_mem_lines {text : Text} {line : Line} (listed : line ∈ lines text) :
    line.tokens = Token.stream line.text := by
  obtain ⟨t, -, eq⟩ := mem_lines.1 listed
  rw [eq]
  rfl

/-- Every token of a document is cut off the line it is in. -/
theorem cut_of_token {text : Text} {line : Line} {token : Token} (listed : line ∈ lines text)
    (member : token ∈ line.tokens) :
    ∃ before c rest, line.text = before ++ c :: rest ∧ isBlank c = false ∧
      token = (Cut.first c rest).token (width before) := by
  rw [tokens_of_mem_lines listed] at member
  obtain ⟨before, c, rest, cut, solid, placed⟩ := Token.cut_of_mem member
  rw [Nat.zero_add] at placed
  exact ⟨before, c, rest, cut, solid, placed⟩

end Document

namespace Line

/-- The segment of the blanks between two tokens. -/
def blankSegment (gap : Text) : List Segment := if gap.isEmpty then [] else [⟨none, gap⟩]

theorem blankSegment_flatten (gap : Text) : (blankSegment gap).flatMap (·.text) = gap := by
  unfold blankSegment
  split <;> simp_all

theorem segmentsFrom_blank {t : Text} (blank : Blank t) (offset : Nat) :
    segmentsFrom offset t (Token.streamFrom offset t) = blankSegment t := by
  rw [Token.streamFrom_of_blank blank]
  rfl

theorem segmentsFrom_lexeme {gap : Text} {c : Char} (t : Text) (blank : Blank gap)
    (solid : isBlank c = false) (offset : Nat) :
    segmentsFrom offset (gap ++ c :: t) (Token.streamFrom offset (gap ++ c :: t)) =
      blankSegment gap ++ ⟨(Cut.first c t).kind, (Cut.first c t).taken⟩ ::
        segmentsFrom (offset + width gap + width (Cut.first c t).taken) (Cut.first c t).rest
          (Token.streamFrom (offset + width gap + width (Cut.first c t).taken)
            (Cut.first c t).rest) := by
  have taken : takeBytes (width (Cut.first c t).taken) (c :: t) = (Cut.first c t).taken := by
    rw [← Cut.first_append c t, takeBytes_width]
  have left : dropBytes (width (Cut.first c t).taken) (c :: t) = (Cut.first c t).rest := by
    rw [← Cut.first_append c t, dropBytes_width]
  rw [Token.streamFrom_lexeme t blank solid]
  simp only [segmentsFrom, Cut.token, Nat.add_sub_cancel_left, dropBytes_width, takeBytes_width,
    taken, left]
  cases gap with
  | nil => simp [blankSegment]
  | cons d gap =>
    have := width_pos (List.cons_ne_nil d gap)
    rw [if_neg (by omega)]
    rfl

theorem segmentsFrom_flatten (offset : Nat) (t : Text) :
    (segmentsFrom offset t (Token.streamFrom offset t)).flatMap (·.text) = t := by
  induction t using lexemeInduction generalizing offset with
  | blank t blank => rw [segmentsFrom_blank blank, blankSegment_flatten]
  | lexeme gap c t blank solid ih =>
    rw [segmentsFrom_lexeme t blank solid, List.flatMap_append, List.flatMap_cons, ih,
      blankSegment_flatten, Cut.first_append]

/-- The segments of a line make up its text. -/
theorem segments_flatten (index : Nat) (t : Text) :
    (ofText index t).segments.flatMap (·.text) = t :=
  segmentsFrom_flatten 0 t

/-- Segments keep characters of the document, and no line feed. -/
theorem of_mem_segments {text : Text} {line : Line} {segment : Segment} {c : Char}
    (listed : line ∈ Document.lines text) (h : segment ∈ line.segments)
    (member : c ∈ segment.text) : c ∈ text ∧ c ≠ '\n' := by
  obtain ⟨t, found, eq⟩ := Document.mem_lines.1 listed
  rw [eq] at h
  have inside : c ∈ t := by
    rw [← segments_flatten line.index t]
    exact List.mem_flatMap.2 ⟨segment, h, member⟩
  exact of_mem_lines (List.mem_of_getElem? found) inside

/-- The kind and text of a segment that is a token. -/
def lexeme? (segment : Segment) : Option (Kind × Text) := segment.kind.map (·, segment.text)

theorem filterMap_blankSegment (gap : Text) : (blankSegment gap).filterMap lexeme? = [] := by
  unfold blankSegment
  split <;> rfl

theorem segmentsFrom_lexemes (before after : Text) :
    (segmentsFrom (width before) after (Token.streamFrom (width before) after)).filterMap
        lexeme? =
      (Token.streamFrom (width before) after).map fun token =>
        (token.kind, token.text (before ++ after)) := by
  induction after using lexemeInduction generalizing before with
  | blank t blank =>
    rw [segmentsFrom_blank blank, filterMap_blankSegment, Token.streamFrom_of_blank blank]
    rfl
  | lexeme gap c t blank solid ih =>
    have later := ih (before ++ gap ++ (Cut.first c t).taken)
    have text := Token.text_of_cut (before ++ gap) c t
    simp only [width_append, List.append_assoc, Cut.first_append, ← Nat.add_assoc] at later text
    rw [segmentsFrom_lexeme t blank solid, Token.streamFrom_lexeme t blank solid,
      List.filterMap_append, filterMap_blankSegment, List.nil_append, List.map_cons, text,
      ← later]
    rfl

/-- The segments that have a kind are the lexemes. -/
theorem segments_lexemes (index : Nat) (t : Text) :
    (ofText index t).segments.filterMap lexeme? =
      (ofText index t).lexemes.map fun (token, text) => (token.kind, text) := by
  rw [lexemes, List.map_map]
  exact segmentsFrom_lexemes [] t

end Line

end QueryInk

import Mathlib.Data.List.Chain
import QueryInk.Proofs.Document.Segments
import QueryInk.Proofs.Token.Resume

/-!
# Walking along a line

Segments can also be handed out one at a time, by a walk that keeps nothing but
its position and how many tokens it has passed, and slices the line at every step
(`Walk.next?`). One that stands at a cut of the line with the tokens of the rest
ahead of it (`Walk.Stands`) hands out a segment and stands at the next cut, or it
is at the end; so it hands out all segments and stops (`Walk.Stands.yields`).
-/

namespace QueryInk.Line
open Text

/-- How far a walk along a line is: a byte position, and the number of tokens passed. -/
structure Walk where
  position : Nat
  passed : Nat
  deriving DecidableEq, Repr

namespace Walk

def start : Walk := ⟨0, 0⟩

/-- One step of a walk: the next segment, if there is one, and how far the walk is then. There is
no step where a slice is not in order or not on boundaries. -/
def next? (line : Line) (w : Walk) : Option (Option Segment × Walk) :=
  match line.tokens[w.passed]? with
  | some token =>
    -- the blanks before a token are a segment, unless there are none
    if w.position < token.span.start then
      (slice? line.text w.position token.span.start).map fun gap =>
        (some ⟨none, gap⟩, { w with position := token.span.start })
    else
      (token.span.text? line.text).map fun lexeme =>
        (some ⟨some token.kind, lexeme⟩, ⟨token.span.stop, w.passed + 1⟩)
  | none =>
    if w.position < width line.text then
      (slice? line.text w.position (width line.text)).map fun gap =>
        (some ⟨none, gap⟩, { w with position := width line.text })
    else some (none, w)

/-- The walk hands out these segments and is at the end, where it stays. -/
inductive Yields (line : Line) : Walk → List Segment → Prop
  | done {w : Walk} (step : w.next? line = some (none, w)) : Yields line w []
  | more {w w' : Walk} {segment : Segment} {segments : List Segment}
      (step : w.next? line = some (some segment, w')) (rest : Yields line w' segments) :
      Yields line w (segment :: segments)

theorem Yields.unique {line : Line} {w : Walk} {one other : List Segment}
    (h : Yields line w one) (h' : Yields line w other) : one = other := by
  induction h generalizing other with
  | done step =>
    cases h' with
    | done => rfl
    | more step' => simp [step] at step'
  | more step _ ih =>
    cases h' with
    | done step' => simp [step] at step'
    | more step' rest =>
      rw [step] at step'
      cases step'
      rw [ih rest]

/-! ## One step -/

/-- The walk stands between `before` and `after`, and the tokens of `after` are still ahead. -/
structure Stands (line : Line) (w : Walk) (before after : Text) : Prop where
  text : line.text = before ++ after
  position : w.position = width before
  ahead : line.tokens.drop w.passed = Token.streamFrom (width before) after

theorem stands_start (index : Nat) (t : Text) : Stands (Line.ofText index t) start [] t :=
  ⟨rfl, rfl, rfl⟩

variable {line : Line} {w : Walk} {before : Text}

theorem Stands.token {after : Text} (h : Stands line w before after) :
    line.tokens[w.passed]? = (Token.streamFrom (width before) after).head? := by
  rw [← h.ahead, List.head?_drop]

theorem next?_end (h : Stands line w before []) : w.next? line = some (none, w) := by
  have none_left := h.token
  rw [Token.streamFrom_of_blank blank_nil, List.head?_nil] at none_left
  have size : ¬ w.position < width line.text := by
    rw [h.position, h.text, List.append_nil]
    exact Nat.lt_irrefl _
  simp only [next?, none_left, if_neg size]

theorem next?_tail {after : Text} (h : Stands line w before after) (blank : Blank after)
    (nonempty : after ≠ []) :
    ∃ w', w.next? line = some (some ⟨none, after⟩, w') ∧ Stands line w' (before ++ after) [] := by
  have none_left := h.token
  rw [Token.streamFrom_of_blank blank, List.head?_nil] at none_left
  have size : width line.text = width before + width after := by rw [h.text, width_append]
  have further : w.position < width line.text := by
    have := width_pos nonempty
    rw [h.position, size]
    omega
  have cut : slice? line.text w.position (width line.text) = some after := by
    rw [size, h.text, h.position]
    simpa using slice?_width before after []
  refine ⟨{ w with position := width line.text }, ?_, ?_⟩
  · simp only [next?, none_left, if_pos further, cut, Option.map_some]
  · constructor
    · rw [h.text, List.append_nil]
    · rw [size, width_append]
    · rw [h.ahead, Token.streamFrom_of_blank blank, Token.streamFrom_of_blank blank_nil]

theorem next?_gap {gap t : Text} {c : Char} (h : Stands line w before (gap ++ c :: t))
    (blank : Blank gap) (solid : isBlank c = false) (nonempty : gap ≠ []) :
    ∃ w', w.next? line = some (some ⟨none, gap⟩, w') ∧ Stands line w' (before ++ gap) (c :: t) := by
  have ahead := h.token
  rw [Token.streamFrom_lexeme t blank solid, List.head?_cons] at ahead
  have further : w.position < width before + width gap := by
    have := width_pos nonempty
    rw [h.position]
    omega
  have cut : slice? line.text w.position (width before + width gap) = some gap := by
    rw [h.text, h.position]
    exact slice?_width before gap (c :: t)
  have begins : ((Cut.first c t).token (width before + width gap)).span.start =
      width before + width gap := rfl
  refine ⟨{ w with position := width before + width gap }, ?_, ?_⟩
  · simp only [next?, ahead, begins, if_pos further, cut, Option.map_some]
  · constructor
    · rw [h.text, List.append_assoc]
    · rw [width_append]
    · rw [h.ahead, Token.streamFrom_skip blank, width_append]

theorem next?_lexeme {t : Text} {c : Char} (h : Stands line w before (c :: t))
    (solid : isBlank c = false) :
    ∃ w', w.next? line = some (some ⟨(Cut.first c t).kind, (Cut.first c t).taken⟩, w') ∧
      Stands line w' (before ++ (Cut.first c t).taken) (Cut.first c t).rest := by
  have ahead := h.token
  rw [Token.streamFrom_solid t solid, List.head?_cons] at ahead
  have here : ¬ w.position < width before := by
    rw [h.position]
    exact Nat.lt_irrefl _
  have cut := Token.text?_of_cut before c t
  rw [← h.text] at cut
  have begins : ((Cut.first c t).token (width before)).span.start = width before := rfl
  refine ⟨⟨width before + width (Cut.first c t).taken, w.passed + 1⟩, ?_, ?_⟩
  · simp only [next?, ahead, begins, if_neg here, cut, Option.map_some]
    rfl
  · constructor
    · rw [h.text, List.append_assoc, Cut.first_append]
    · rw [width_append]
    · rw [← List.tail_drop, h.ahead, Token.streamFrom_solid t solid, width_append]
      rfl

/-! ## The whole walk -/

/-- The blanks before a lexeme are handed out if there are any. -/
theorem Stands.skip_gap {gap t : Text} {c : Char} (h : Stands line w before (gap ++ c :: t))
    (blank : Blank gap) (solid : isBlank c = false) :
    ∃ w', Stands line w' (before ++ gap) (c :: t) ∧
      ∀ segments, Yields line w' segments → Yields line w (blankSegment gap ++ segments) := by
  cases gap with
  | nil =>
    refine ⟨w, by simpa using h, ?_⟩
    intro segments rest
    exact rest
  | cons d gap =>
    obtain ⟨w', step, stands⟩ := next?_gap h blank solid (List.cons_ne_nil d gap)
    refine ⟨w', stands, ?_⟩
    intro segments rest
    exact .more step rest

theorem Stands.yields {after : Text} (h : Stands line w before after) :
    Yields line w (segmentsFrom (width before) after (Token.streamFrom (width before) after)) := by
  induction after using lexemeInduction generalizing w before with
  | blank t blank =>
    rw [segmentsFrom_blank blank]
    cases t with
    | nil => exact .done (next?_end h)
    | cons c t =>
      obtain ⟨w', step, stands⟩ := next?_tail h blank (List.cons_ne_nil c t)
      exact .more step (.done (next?_end stands))
  | lexeme gap c t blank solid ih =>
    obtain ⟨w', at_lexeme, skipped⟩ := h.skip_gap blank solid
    obtain ⟨w'', step, after_lexeme⟩ := next?_lexeme at_lexeme solid
    -- the position after the lexeme is where the segments of the rest are counted from
    have rest := ih after_lexeme
    rw [width_append, width_append] at rest
    rw [segmentsFrom_lexeme t blank solid]
    exact skipped _ (.more step rest)

theorem yields_iff (index : Nat) (t : Text) (segments : List Segment) :
    Yields (Line.ofText index t) start segments ↔ segments = (Line.ofText index t).segments := by
  have whole : Yields (Line.ofText index t) start (Line.ofText index t).segments :=
    (stands_start index t).yields
  constructor
  · intro walked
    exact walked.unique whole
  · rintro rfl
    exact whole

end Walk

/-! ## What is handed out -/

/-- Neighbours of which one is a token. -/
def Apart (one next : Segment) : Prop := one.kind ≠ none ∨ next.kind ≠ none

theorem of_mem_blankSegment {gap : Text} {segment : Segment}
    (h : segment ∈ blankSegment gap) : segment.text = gap ∧ gap ≠ [] := by
  unfold blankSegment at h
  split at h
  · cases h
  · next nonempty =>
    obtain rfl := List.mem_singleton.1 h
    exact ⟨rfl, by simpa using nonempty⟩

theorem segmentsFrom_gaps (offset : Nat) (t : Text) :
    ∀ segment ∈ segmentsFrom offset t (Token.streamFrom offset t), segment.kind = none →
      segment.text ≠ [] ∧ Blank segment.text := by
  induction t using lexemeInduction generalizing offset with
  | blank t blank =>
    intro segment member _
    rw [segmentsFrom_blank blank] at member
    obtain ⟨rfl, nonempty⟩ := of_mem_blankSegment member
    exact ⟨nonempty, blank⟩
  | lexeme gap c t blank solid ih =>
    intro segment member gapped
    rw [segmentsFrom_lexeme t blank solid, List.mem_append, List.mem_cons] at member
    rcases member with first | rfl | later
    · obtain ⟨rfl, nonempty⟩ := of_mem_blankSegment first
      exact ⟨nonempty, blank⟩
    · cases gapped
    · exact ih _ segment later gapped

theorem blankSegment_apart (gap : Text) : (blankSegment gap).IsChain Apart := by
  unfold blankSegment
  split
  · exact .nil
  · exact .singleton _

theorem segmentsFrom_apart (offset : Nat) (t : Text) :
    (segmentsFrom offset t (Token.streamFrom offset t)).IsChain Apart := by
  induction t using lexemeInduction generalizing offset with
  | blank t blank =>
    rw [segmentsFrom_blank blank]
    exact blankSegment_apart t
  | lexeme gap c t blank solid ih =>
    -- next to a lexeme anything may stand
    have from_lexeme := (ih (offset + width gap + width (Cut.first c t).taken)).cons
      (x := ⟨some (Cut.first c t).kind, (Cut.first c t).taken⟩) fun next _ => .inl (by simp)
    rw [segmentsFrom_lexeme t blank solid, List.isChain_append]
    refine ⟨blankSegment_apart gap, from_lexeme, ?_⟩
    intro one _ next front
    obtain rfl := Option.some.inj front
    exact .inr (by simp)

/-- A list of segments that makes up a line. -/
structure Lossless (line : Line) (segments : List Segment) : Prop where
  whole : segments.flatMap (·.text) = line.text
  lexemes : segments.filterMap lexeme? =
    line.lexemes.map fun (token, text) => (token.kind, text)
  gaps : ∀ segment ∈ segments, segment.kind = none → segment.text ≠ [] ∧ Blank segment.text
  apart : segments.IsChain Apart

/-- A walk along a line ends, after the segments of the line and nothing else. They make up the
line: its tokens in order, and between them what blanks there are in one piece. -/
theorem segments_lossless (index : Nat) (t : Text) :
    let line := Line.ofText index t
    (∀ segments, Walk.Yields line .start segments ↔ segments = line.segments) ∧
      Lossless line line.segments := by
  intro line
  refine ⟨Walk.yields_iff index t, ?_⟩
  constructor
  · exact segments_flatten index t
  · exact segments_lexemes index t
  · exact segmentsFrom_gaps 0 t
  · exact segmentsFrom_apart 0 t

/-- Neighbouring tokens have nothing between them, and blanks that end a line are a segment. -/
example :
    (Line.ofText 0 "é  +1 ".toList).segments =
      [⟨some .stray, ['é']⟩, ⟨none, [' ', ' ']⟩, ⟨some .operator, ['+']⟩, ⟨some .number, ['1']⟩,
        ⟨none, [' ']⟩] := by
  decide +kernel

end QueryInk.Line

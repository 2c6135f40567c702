import QueryInk.Proofs.Token.Run

/-!
# Scanners only move forward

A caller may apply any rule at any position, whatever stands there. A scanner cuts
its line in three: what comes before its last token, that token with all that was
taken after it, and what is left. A call keeps such a cut and moves both of its
ends forward or not at all (`step_follows`), and so do any calls in a row
(`run_follows`).
-/

namespace QueryInk

/-- A line cut in three. -/
structure Place where
  before : Text
  token : Text
  after : Text
  deriving DecidableEq, Repr

namespace Place
open Text

def line (p : Place) : Text := p.before ++ (p.token ++ p.after)

/-- The cuts of `q` are those of `p` or lie behind them. -/
structure Precedes (p q : Place) : Prop where
  line : q.line = p.line
  start : p.before <+: q.before
  position : p.before ++ p.token <+: q.before ++ q.token

theorem Precedes.refl (p : Place) : p.Precedes p :=
  ⟨rfl, List.prefix_refl _, List.prefix_refl _⟩

theorem Precedes.trans {p q r : Place} (first : p.Precedes q) (second : q.Precedes r) :
    p.Precedes r :=
  ⟨second.line.trans first.line, first.start.trans second.start,
    first.position.trans second.position⟩

end Place

namespace Scanner
open Text

/-- What a caller can ask of a scanner. -/
inductive Call
  | next
  | pair
  | symbol
  | string (close : Char)
  | quotedName
  | number
  | sigil
  | word
  deriving DecidableEq, Repr

def step (s : Scanner) : Call → Scanner
  | .next => s.next.2
  | .pair => (s.take? Cut.pair?).2
  | .symbol => (s.take Cut.symbol).2
  | .string close => (s.take (Cut.delimited close)).2
  | .quotedName => (s.take (Cut.delimited Cut.backtick)).2
  | .number => (s.take Cut.number).2
  | .sigil => (s.take Cut.sigil).2
  | .word => (s.take Cut.word).2

def run (s : Scanner) (calls : List Call) : Scanner := calls.foldl step s

/-- The scanner and the start of its token are at the two cuts. -/
structure Stands (s : Scanner) (p : Place) : Prop where
  splits : s.cursor.Splits (p.before ++ p.token) p.after
  start : s.tokenStart = width p.before

/-- The scanner is where one that stands at `p` can come by moving forward. -/
def Follows (s : Scanner) (p : Place) : Prop := ∃ q, s.Stands q ∧ p.Precedes q

variable {s : Scanner} {p : Place}

theorem stands_ofOffset (line : Text) (offset : Nat) :
    ∃ p : Place, p.line = line ∧ (ofOffset line offset).Stands p := by
  obtain ⟨before, cut, snapped, splits⟩ := Cursor.splits_ofOffset line offset
  refine ⟨⟨before, [], dropBytes offset line⟩, cut.symm, ?_, snapped⟩
  rw [List.append_nil]
  exact splits

/-- What is taken at the position joins the token. -/
theorem follows_skip {taken rest : Text} (h : s.Stands p) (cut : p.after = taken ++ rest) :
    Follows ⟨s.cursor.skip taken, s.tokenStart⟩ p := by
  have moved := (cut ▸ h.splits).skip
  refine ⟨⟨p.before, p.token ++ taken, rest⟩, ⟨by simpa using moved, h.start⟩, ?_⟩
  exact ⟨by simp [Place.line, cut], List.prefix_refl _, ⟨taken, by simp⟩⟩

/-- Any rule, if what it takes comes next. -/
theorem follows_take {rule : Text → Cut} (h : s.Stands p)
    (cuts : ∀ t, (rule t).taken ++ (rule t).rest = t) : (s.take rule).2.Follows p := by
  have left := cuts s.cursor.remaining
  rw [h.splits.remaining] at left
  have moved := follows_skip h left.symm
  rwa [← h.splits.remaining] at moved

theorem follows_take? (h : s.Stands p) : (s.take? Cut.pair?).2.Follows p := by
  unfold take?
  split
  · next cut found =>
    have left := Cut.pair?_append found
    rw [h.splits.remaining] at left
    exact follows_skip h left.symm
  · exact ⟨p, h, .refl p⟩

/-- Reading a token: either all that is left is blank and goes to the token at hand, or a token
starts behind the blanks. -/
theorem next_cases (h : s.Stands p) :
    (Blank p.after ∧ s.next.1 = none ∧ s.next.2.Stands ⟨p.before, p.token ++ p.after, []⟩) ∨
    ∃ gap c t, p.after = gap ++ c :: t ∧ Blank gap ∧ isBlank c = false ∧
      s.next.1 = some ((Cut.first c t).token (width (p.before ++ p.token ++ gap))) ∧
      s.next.2.Stands
        ⟨p.before ++ p.token ++ gap, (Cut.first c t).taken, (Cut.first c t).rest⟩ := by
  have splits := h.splits
  induction left : p.after using lexemeInduction with
  | blank after blank =>
    obtain ⟨s', read, moved, start⟩ := next_of_blank (left ▸ splits) blank
    rw [List.append_assoc] at moved
    rw [read]
    exact .inl ⟨blank, rfl, moved, start.trans h.start⟩
  | lexeme gap c t blank solid ih =>
    obtain ⟨s', read, moved, start⟩ := next_lexeme (left ▸ splits) blank solid
    rw [← width_append] at read start
    rw [read]
    exact .inr ⟨gap, c, t, rfl, blank, solid, rfl, moved, start⟩

theorem follows_next (h : s.Stands p) : s.next.2.Follows p := by
  rcases next_cases h with ⟨-, -, moved⟩ | ⟨gap, c, t, left, -, -, -, moved⟩
  · refine ⟨_, moved, by simp [Place.line], List.prefix_refl _, p.after, by simp⟩
  · refine ⟨_, moved, ?_, ⟨p.token ++ gap, by simp⟩, ⟨gap ++ (Cut.first c t).taken, by simp⟩⟩
    simp [Place.line, left, Cut.first_append]

/-- One call. -/
theorem step_follows (h : s.Stands p) (call : Call) : (s.step call).Follows p := by
  cases call with
  | next => exact follows_next h
  | pair => exact follows_take? h
  | symbol => exact follows_take h (Cut.after_append .operator 1)
  | string close => exact follows_take h (Cut.delimited_append close)
  | quotedName => exact follows_take h (Cut.delimited_append Cut.backtick)
  | number => exact follows_take h Cut.number_append
  | sigil => exact follows_take h Cut.sigil_append
  | word => exact follows_take h Cut.word_append

/-- Any calls in a row. -/
theorem run_follows (h : s.Stands p) (calls : List Call) : (s.run calls).Follows p := by
  induction calls generalizing s p with
  | nil => exact ⟨p, h, .refl p⟩
  | cons call calls ih =>
    obtain ⟨q, stands, first⟩ := step_follows h call
    obtain ⟨r, last, later⟩ := ih stands
    exact ⟨r, last, first.trans later⟩

theorem Stands.position (h : s.Stands p) : s.position = width (p.before ++ p.token) :=
  h.splits.position

theorem Stands.forward {s' : Scanner} (h : s.Stands p) (follows : s'.Follows p) :
    s.tokenStart ≤ s'.tokenStart ∧ s.position ≤ s'.position := by
  obtain ⟨q, stands, later⟩ := follows
  rw [h.start, h.position, stands.start, stands.position]
  exact ⟨width_mono later.start, width_mono later.position⟩

/-- What holds of a scanner of `line` at all times. -/
structure Sound (line : Text) (s : Scanner) : Prop where
  ordered : s.tokenStart ≤ s.position
  inside : s.position ≤ width line
  boundaries : isBoundary line s.tokenStart = true ∧ isBoundary line s.position = true
  text : ∃ t, s.tokenText? = some t

theorem Stands.sound (h : s.Stands p) : s.Sound p.line := by
  have start := isBoundary_width p.before (p.token ++ p.after)
  have stop := isBoundary_width (p.before ++ p.token) p.after
  have whole : p.line = p.before ++ p.token ++ p.after := (List.append_assoc ..).symm
  have text := slice?_width p.before p.token p.after
  refine ⟨?_, ?_, ⟨?_, ?_⟩, p.token, ?_⟩
  · rw [h.start, h.position]
    exact width_mono (List.prefix_append _ _)
  · rw [h.position, whole]
    exact width_mono (List.prefix_append _ _)
  · rwa [h.start]
  · rwa [h.position, whole]
  · rw [tokenText?, Cursor.sliceFrom?, h.splits.source, h.splits.position, h.start]
    rwa [← List.append_assoc, ← width_append] at text

/-- What reading a token from `s` tells, in `line`. -/
structure Reads (line : Text) (s : Scanner) : Prop where
  none_iff : s.next.1 = none ↔ Blank s.cursor.remaining
  at_end : s.next.1 = none → s.next.2.position = width line ∧
    s.next.2.tokenStart = s.tokenStart ∧
    ∀ calls, (s.next.2.run calls).position = width line
  token : ∀ token, s.next.1 = some token → token.span.start = s.next.2.tokenStart ∧
    s.position ≤ token.span.start ∧ token.span.start < token.span.stop ∧
    token.span.stop = s.next.2.position

/-- At the end of the line every run stays there. -/
theorem run_at_end (h : s.Stands p) (empty : p.after = []) (calls : List Call) :
    (s.run calls).position = width p.line := by
  obtain ⟨q, stands, later⟩ := run_follows h calls
  have here : s.position = width p.line := by rw [h.position, Place.line, empty, List.append_nil]
  have forward := (h.forward ⟨q, stands, later⟩).2
  have inside := stands.sound.inside
  rw [later.line] at inside
  omega

theorem reads_of_blank (h : s.Stands p) (blank : Blank p.after) (none : s.next.1 = none)
    (moved : s.next.2.Stands ⟨p.before, p.token ++ p.after, []⟩) : s.Reads p.line := by
  have same : Place.line ⟨p.before, p.token ++ p.after, []⟩ = p.line := by simp [Place.line]
  have stays := run_at_end moved rfl
  rw [same] at stays
  refine ⟨⟨fun _ => ?_, fun _ => none⟩, fun _ => ⟨stays [], moved.start.trans h.start.symm, stays⟩,
    ?_⟩
  · rwa [h.splits.remaining]
  · intro token found
    rw [none] at found
    cases found

theorem reads_of_lexeme {gap t : Text} {c : Char} (h : s.Stands p) (left : p.after = gap ++ c :: t)
    (solid : isBlank c = false)
    (found : s.next.1 = some ((Cut.first c t).token (width (p.before ++ p.token ++ gap))))
    (moved : s.next.2.Stands
      ⟨p.before ++ p.token ++ gap, (Cut.first c t).taken, (Cut.first c t).rest⟩) :
    s.Reads p.line := by
  have some_token : s.next.1 ≠ none := by simp [found]
  refine ⟨⟨fun none => absurd none some_token, ?_⟩, fun none => absurd none some_token, ?_⟩
  · intro blank
    rw [h.splits.remaining, left] at blank
    have := blank c (by simp)
    rw [solid] at this
    contradiction
  · intro token read
    obtain rfl := Option.some.inj (found.symm.trans read)
    have taken := width_pos (Cut.first_ne_nil c t)
    refine ⟨moved.start.symm, ?_, ?_, ?_⟩
    · rw [h.position]
      exact width_mono (List.prefix_append _ _)
    · simp only [Cut.token]
      omega
    · exact (moved.position.trans (width_append _ _)).symm

theorem Stands.reads (h : s.Stands p) : s.Reads p.line := by
  rcases next_cases h with ⟨blank, none, moved⟩ | ⟨gap, c, t, left, -, solid, found, moved⟩
  · exact reads_of_blank h blank none moved
  · exact reads_of_lexeme h left solid found moved

/-- A scanner put at any offset and used in any way stays on the boundaries of its line, with the
start of its token at or before its position, and no call moves either back. -/
theorem runs_forward (line : Text) (offset : Nat) (calls : List Call) :
    let s := (ofOffset line offset).run calls
    s.Sound line ∧ s.Reads line ∧
      ∀ call, s.tokenStart ≤ (s.step call).tokenStart ∧ s.position ≤ (s.step call).position := by
  obtain ⟨p, whole, start⟩ := stands_ofOffset line offset
  obtain ⟨q, stands, later⟩ := run_follows start calls
  obtain rfl : q.line = line := later.line.trans whole
  refine ⟨stands.sound, stands.reads, fun call => ?_⟩
  exact stands.forward (step_follows stands call)

/-- A rule for strings is applied at the end of a token and closed by a wide character; then only
blanks are left. -/
theorem runs_forward_wide :
    let s := (ofOffset "é1« x» ".toList 1).run [.next, .string '»']
    s.tokenStart = 2 ∧ s.position = 9 ∧ s.next.1 = none ∧
      ∀ calls, (s.next.2.run calls).position = 10 := by
  intro s
  have ended : s.next.1 = none := by decide
  obtain ⟨-, reads, -⟩ := runs_forward "é1« x» ".toList 1 [.next, .string '»']
  exact ⟨by decide, by decide, ended, (reads.at_end ended).2.2⟩

end Scanner

end QueryInk

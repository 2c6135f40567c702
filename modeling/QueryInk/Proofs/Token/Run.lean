import QueryInk.Proofs.Text.Longest
import QueryInk.Proofs.Text.Offsets
import QueryInk.Token.Scanner
import QueryInk.Token.Stream

/-!
# Runs over a line

A line is blank, or it is blanks, a lexeme and the rest of the line
(`lexemeInduction`). The tokens of a line and the steps of a scanner follow the
same cuts (`toList_splits`), and every token comes from one (`cut_of_mem`).
-/

namespace QueryInk
open Text

/-- A text of blanks. -/
def Text.Blank (t : Text) : Prop := ∀ c ∈ t, isBlank c = true

theorem Text.blank_nil : Blank [] := by simp [Blank]

/-- A lexeme as a token, where it starts at byte `start`. -/
def Cut.token (cut : Cut) (start : Nat) : Token := ⟨cut.kind, start, start + width cut.taken⟩

/-- A rule takes the character it is picked for. -/
theorem Cut.first_taken (c : Char) (t : Text) :
    ∃ body, (first c t).taken = c :: body ∧ body ++ (first c t).rest = t := by
  have whole := first_append c t
  obtain ⟨d, body, taken⟩ := List.exists_cons_of_ne_nil (first_ne_nil c t)
  rw [taken, List.cons_append, List.cons.injEq] at whole
  obtain ⟨rfl, left⟩ := whole
  exact ⟨body, taken, left⟩

/-- What a line is made of, from the front. -/
@[elab_as_elim]
theorem lexemeInduction {motive : Text → Prop} (blank : ∀ t, Blank t → motive t)
    (lexeme : ∀ gap c t, Blank gap → isBlank c = false → motive (Cut.first c t).rest →
      motive (gap ++ c :: t)) (t : Text) : motive t := by
  induction size : t.length using Nat.strongRecOn generalizing t with
  | ind n ih =>
    have split := List.takeWhile_append_dropWhile (p := isBlank) (l := t)
    have gap : Blank (t.takeWhile isBlank) := fun _ => List.mem_takeWhile_imp
    cases found : t.dropWhile isBlank with
    | nil => exact blank t (List.dropWhile_eq_nil_iff.1 found)
    | cons c rest =>
      rw [found] at split
      have shorter := Cut.first_rest_length c rest
      have whole := congrArg List.length split
      simp only [List.length_append, List.length_cons] at whole
      rw [← split]
      exact lexeme _ c rest gap (eq_false_of_dropWhile found) (ih _ (by omega) _ rfl)

namespace Token

theorem streamFrom_of_blank {t : Text} (h : Blank t) (offset : Nat) : streamFrom offset t = [] :=
  streamFrom_blank (List.dropWhile_eq_nil_iff.2 h) offset

theorem streamFrom_lexeme {gap : Text} {c : Char} (t : Text) (blank : Blank gap)
    (solid : isBlank c = false) (offset : Nat) :
    streamFrom offset (gap ++ c :: t) =
      (Cut.first c t).token (offset + width gap) ::
        streamFrom (offset + width gap + width (Cut.first c t).taken) (Cut.first c t).rest := by
  have stop : ∀ d ∈ (c :: t).head?, isBlank d = false := by simpa using solid
  rw [streamFrom_cons (dropWhile_run blank stop), takeWhile_run blank stop]
  rfl

theorem streamFrom_solid {c : Char} (t : Text) (solid : isBlank c = false) (offset : Nat) :
    streamFrom offset (c :: t) =
      (Cut.first c t).token offset ::
        streamFrom (offset + width (Cut.first c t).taken) (Cut.first c t).rest := by
  simpa using streamFrom_lexeme t blank_nil solid offset

/-- Every token of a line is cut off the line where it starts. -/
theorem cut_of_mem {offset : Nat} {t : Text} {token : Token} (h : token ∈ streamFrom offset t) :
    ∃ before c rest, t = before ++ c :: rest ∧ isBlank c = false ∧
      token = (Cut.first c rest).token (offset + width before) := by
  induction t using lexemeInduction generalizing offset with
  | blank t blank => simp [streamFrom_of_blank blank] at h
  | lexeme gap c t blank solid ih =>
    rw [streamFrom_lexeme t blank solid, List.mem_cons] at h
    rcases h with rfl | later
    · exact ⟨gap, c, t, rfl, solid, rfl⟩
    · obtain ⟨before, d, rest, cut, solid', rfl⟩ := ih later
      refine ⟨gap ++ (Cut.first c t).taken ++ before, d, rest, ?_, solid', ?_⟩
      · rw [List.append_assoc, List.append_assoc, ← cut, Cut.first_append]
      · simp [Nat.add_assoc]

end Token

namespace Scanner

theorem next_of_blank {s : Scanner} {before after : Text} (h : s.cursor.Splits before after)
    (blank : Blank after) :
    ∃ s', s.next = (none, s') ∧ s'.cursor.Splits (before ++ after) [] ∧
      s'.tokenStart = s.tokenStart := by
  have run : after.takeWhile isBlank = after := List.takeWhile_eq_self_iff.2 blank
  have all : s.cursor.Splits before (after ++ []) := by simpa using h
  have left := all.skip.remaining
  refine ⟨⟨s.cursor.skip after, s.tokenStart⟩, ?_, all.skip, rfl⟩
  simp only [next, Cursor.eatWhile, h.remaining, run, left]

theorem next_lexeme {s : Scanner} {before gap t : Text} {c : Char}
    (h : s.cursor.Splits before (gap ++ c :: t)) (blank : Blank gap) (solid : isBlank c = false) :
    ∃ s', s.next = (some ((Cut.first c t).token (width before + width gap)), s') ∧
      s'.cursor.Splits (before ++ gap ++ (Cut.first c t).taken) (Cut.first c t).rest ∧
      s'.tokenStart = width before + width gap := by
  have stop : ∀ d ∈ (c :: t).head?, isBlank d = false := by simpa using solid
  have at_lexeme := h.skip
  have cut : (s.cursor.skip gap).Splits (before ++ gap)
      ((Cut.first c t).taken ++ (Cut.first c t).rest) := by
    rw [Cut.first_append]
    exact at_lexeme
  refine ⟨⟨(s.cursor.skip gap).skip (Cut.first c t).taken, (s.cursor.skip gap).position⟩, ?_,
    cut.skip, at_lexeme.position.trans (width_append before gap)⟩
  simp only [next, Cursor.eatWhile, h.remaining, takeWhile_run blank stop, at_lexeme.remaining]
  simp [Cut.token, Cursor.skip, h.position]

theorem toList_of_none {s s' : Scanner} (h : s.next = (none, s')) : s.toList = [] := by
  rw [toList]
  split
  · rfl
  · simp_all

theorem toList_of_some {s s' : Scanner} {token : Token} (h : s.next = (some token, s')) :
    s.toList = token :: s'.toList := by
  rw [toList]
  split
  · simp_all
  · next found =>
    rw [h] at found
    cases found
    rfl

/-- From a cut on, a scanner reads the tokens of what is left. -/
theorem toList_splits {s : Scanner} {before after : Text} (h : s.cursor.Splits before after) :
    s.toList = Token.streamFrom (width before) after := by
  induction after using lexemeInduction generalizing s before with
  | blank t blank =>
    obtain ⟨s', step, -⟩ := next_of_blank h blank
    rw [toList_of_none step, Token.streamFrom_of_blank blank]
  | lexeme gap c t blank solid ih =>
    obtain ⟨s', step, cut, -⟩ := next_lexeme h blank solid
    rw [toList_of_some step, ih cut, Token.streamFrom_lexeme t blank solid]
    simp [Nat.add_assoc]

theorem toList_ofLine (line : Text) : (ofLine line).toList = Token.stream line := by
  have splits : (ofLine line).cursor.Splits [] line :=
    ⟨rfl, by simp [ofLine, ofOffset, Cursor.ofOffset, snap]⟩
  exact toList_splits splits

end Scanner

namespace Token

/-- One step reads the first of the tokens that are left. -/
theorem scan_eq_head? (line : Text) (offset : Nat) :
    scan line offset = (streamFrom (snap line offset) (dropBytes offset line)).head? := by
  obtain ⟨before, -, snapped, splits⟩ := Cursor.splits_ofOffset line offset
  rw [snapped, ← Scanner.toList_splits (s := Scanner.ofOffset line offset) splits]
  unfold scan
  cases step : (Scanner.ofOffset line offset).next with
  | mk token s' =>
    cases token with
    | none => rw [Scanner.toList_of_none step]; rfl
    | some token => rw [Scanner.toList_of_some step]; rfl

theorem cut_of_scan {line : Text} {offset : Nat} {token : Token}
    (h : scan line offset = some token) :
    ∃ before c rest, line = before ++ c :: rest ∧ isBlank c = false ∧
      token = (Cut.first c rest).token (width before) := by
  rw [scan_eq_head?] at h
  obtain ⟨skipped, cut, snapped⟩ := exists_snap line offset
  obtain ⟨before, c, rest, left, solid, rfl⟩ := cut_of_mem (List.mem_of_head? h)
  refine ⟨skipped ++ before, c, rest, ?_, solid, ?_⟩
  · rw [List.append_assoc, ← left, ← cut]
  · rw [snapped, width_append]

/-- The text of a token is its lexeme. -/
theorem text?_of_cut (before : Text) (c : Char) (rest : Text) :
    ((Cut.first c rest).token (width before)).span.text? (before ++ c :: rest) =
      some (Cut.first c rest).taken := by
  have cut := slice?_width before (Cut.first c rest).taken (Cut.first c rest).rest
  rwa [Cut.first_append] at cut

theorem text_of_cut (before : Text) (c : Char) (rest : Text) :
    ((Cut.first c rest).token (width before)).text (before ++ c :: rest) =
      (Cut.first c rest).taken := by
  have cut := slice_width before (Cut.first c rest).taken (Cut.first c rest).rest
  rwa [Cut.first_append] at cut

end Token

end QueryInk

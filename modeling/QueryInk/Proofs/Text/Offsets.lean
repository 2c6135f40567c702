import Mathlib.Data.List.TakeWhile
import QueryInk.Text.Cursor

/-!
# Offsets and cuts

A boundary of a text is the width of what stands before it, so an offset is best
understood as a cut of the text in two (`isBoundary_iff`, `exists_snap`). A cursor
at a cut (`Cursor.Splits`) stays at one when it moves past what comes next.
-/

namespace QueryInk

namespace Text

@[simp] theorem dropBytes_zero (t : Text) : dropBytes 0 t = t := by
  cases t <;> rfl

theorem dropBytes_cons (c : Char) (n : Nat) (t : Text) :
    dropBytes (c.utf8Size + n) (c :: t) = dropBytes n t := by
  obtain ⟨k, hk⟩ := Nat.exists_eq_succ_of_ne_zero (Nat.ne_of_gt c.utf8Size_pos)
  have unfolded : dropBytes (k + n + 1) (c :: t) = dropBytes (k + n + 1 - c.utf8Size) t := rfl
  rw [show c.utf8Size + n = k + n + 1 by omega, unfolded]
  congr 1
  omega

theorem takeBytes_cons (c : Char) (n : Nat) (t : Text) :
    takeBytes (c.utf8Size + n) (c :: t) = c :: takeBytes n t := by
  obtain ⟨k, hk⟩ := Nat.exists_eq_succ_of_ne_zero (Nat.ne_of_gt c.utf8Size_pos)
  have unfolded : takeBytes (k + n + 1) (c :: t) = c :: takeBytes (k + n + 1 - c.utf8Size) t := rfl
  rw [show c.utf8Size + n = k + n + 1 by omega, unfolded]
  congr 2
  omega

@[simp] theorem dropBytes_width (before after : Text) :
    dropBytes (width before) (before ++ after) = after := by
  induction before with
  | nil => cases after <;> rfl
  | cons c before ih => rw [width_cons, List.cons_append, dropBytes_cons, ih]

@[simp] theorem takeBytes_width (before after : Text) :
    takeBytes (width before) (before ++ after) = before := by
  induction before with
  | nil => cases after <;> rfl
  | cons c before ih => rw [width_cons, List.cons_append, takeBytes_cons, ih]

theorem dropBytes_suffix (n : Nat) (t : Text) : dropBytes n t <:+ t := by
  induction t generalizing n with
  | nil => cases n <;> exact List.suffix_refl []
  | cons c t ih =>
    cases n with
    | zero => exact List.suffix_refl _
    | succ n => exact (ih (n + 1 - c.utf8Size)).trans (List.suffix_cons c t)

/-- A character only partly dropped goes too, so more than `n` bytes may go. -/
theorem width_dropBytes_le (n : Nat) (t : Text) : width (dropBytes n t) ≤ width t - n := by
  induction t generalizing n with
  | nil => cases n <;> simp [dropBytes]
  | cons c t ih =>
    cases n with
    | zero => simp
    | succ n =>
      have left := ih (n + 1 - c.utf8Size)
      simp only [dropBytes, width_cons]
      omega

/-- An offset only moves forward. -/
theorem le_snap {t : Text} {n : Nat} (inside : n ≤ width t) : n ≤ snap t n := by
  have left := width_dropBytes_le n t
  unfold snap
  omega

/-- Every offset snaps to a cut. -/
theorem exists_snap (t : Text) (n : Nat) :
    ∃ before, t = before ++ dropBytes n t ∧ snap t n = width before := by
  obtain ⟨before, cut⟩ := dropBytes_suffix n t
  refine ⟨before, cut.symm, ?_⟩
  have whole := congrArg width cut
  rw [width_append] at whole
  unfold snap
  omega

@[simp] theorem snap_width (before after : Text) :
    snap (before ++ after) (width before) = width before := by
  simp [snap]

/-- The boundaries of a text are its cuts. -/
theorem isBoundary_iff {t : Text} {n : Nat} :
    isBoundary t n = true ↔ ∃ before after, t = before ++ after ∧ n = width before := by
  simp only [isBoundary, beq_iff_eq]
  constructor
  · intro fixed
    obtain ⟨before, cut, snapped⟩ := exists_snap t n
    exact ⟨before, _, cut, fixed ▸ snapped⟩
  · rintro ⟨before, after, rfl, rfl⟩
    exact snap_width before after

theorem isBoundary_width (before after : Text) :
    isBoundary (before ++ after) (width before) = true :=
  isBoundary_iff.2 ⟨before, after, rfl, rfl⟩

theorem slice_width (before between after : Text) :
    slice (before ++ (between ++ after)) (width before) (width before + width between) =
      between := by
  simp [slice]

theorem slice?_width (before between after : Text) :
    slice? (before ++ (between ++ after)) (width before) (width before + width between) =
      some between := by
  have first := isBoundary_width before (between ++ after)
  have second := isBoundary_width (before ++ between) after
  rw [List.append_assoc, width_append] at second
  simp [slice?, first, second, slice_width]

theorem width_mono {s t : Text} (front : s <+: t) : width s ≤ width t := by
  obtain ⟨more, rfl⟩ := front
  rw [width_append]
  omega

/-- Of two cuts the one at the smaller offset comes first. -/
theorem prefix_of_width_le {a b c d : Text} (same : a ++ b = c ++ d)
    (order : width a ≤ width c) : ∃ more, c = a ++ more := by
  rcases List.append_eq_append_iff.1 same with ⟨more, eq, -⟩ | ⟨more, eq, -⟩
  · exact ⟨more, eq⟩
  · rw [eq, width_append] at order
    have empty : more = [] := by
      by_contra hne
      have := width_pos hne
      omega
    exact ⟨[], by simp [eq, empty]⟩

/-- A slice lies between two cuts. -/
theorem cuts_of_slice? {t between : Text} {start stop : Nat}
    (h : slice? t start stop = some between) :
    ∃ before after, t = before ++ (between ++ after) ∧ start = width before ∧
      stop = width before + width between := by
  unfold slice? at h
  split at h
  · next valid =>
    obtain ⟨order, first, second⟩ := valid
    obtain ⟨before, rest, rfl, rfl⟩ := isBoundary_iff.1 first
    obtain ⟨whole, after, same, rfl⟩ := isBoundary_iff.1 second
    obtain ⟨middle, rfl⟩ := prefix_of_width_le same order
    rw [List.append_assoc, List.append_cancel_left_eq] at same
    rw [same, width_append, slice_width, Option.some.injEq] at h
    subst h same
    exact ⟨before, after, rfl, rfl, width_append before middle⟩
  · cases h

end Text

namespace Cursor

/-- The cursor stands between `before` and `after`. -/
structure Splits (c : Cursor) (before after : Text) : Prop where
  source : c.source = before ++ after
  position : c.position = Text.width before

theorem splits_ofOffset (line : Text) (offset : Nat) :
    ∃ before, line = before ++ Text.dropBytes offset line ∧
      Text.snap line offset = Text.width before ∧
      (ofOffset line offset).Splits before (Text.dropBytes offset line) := by
  obtain ⟨before, cut, snapped⟩ := Text.exists_snap line offset
  exact ⟨before, cut, snapped, cut, snapped⟩

theorem Splits.remaining {c : Cursor} {before after : Text} (h : c.Splits before after) :
    c.remaining = after := by
  unfold Cursor.remaining
  rw [h.source, h.position, Text.dropBytes_width]

theorem Splits.skip {c : Cursor} {before taken after : Text}
    (h : c.Splits before (taken ++ after)) : (c.skip taken).Splits (before ++ taken) after where
  source := by simp [Cursor.skip, h.source]
  position := by simp [Cursor.skip, h.position]

end Cursor

end QueryInk

import QueryInk.Text.Bytes

namespace QueryInk.Text

/-- A line without the carriage return of its terminator. -/
def stripReturn (line : Text) : Text :=
  if line.getLast? = some '\r' then line.dropLast else line

/-- A line ends at a line feed, with the carriage return right before it. A final line feed opens
no further line. -/
def lines (t : Text) : List Text :=
  match _h : t.dropWhile (· != '\n') with
  | [] => if t.isEmpty then [] else [t]
  | _ :: rest => stripReturn (t.takeWhile (· != '\n')) :: lines rest
termination_by t.length
decreasing_by
  have shorter := (List.dropWhile_suffix (l := t) (· != '\n')).length_le
  simp only [_h, List.length_cons] at shorter
  omega

@[simp] theorem lines_nil : lines [] = [] := by
  rw [lines]
  rfl

theorem unended_of_not_mem {t : Text} (h : '\n' ∉ t) : ∀ c ∈ t, (c != '\n') = true := by
  intro c mem
  simp only [bne_iff_ne, ne_eq]
  rintro rfl
  exact h mem

/-- A text without a line feed is one line, unless it is empty. -/
theorem lines_unended {t : Text} (h : '\n' ∉ t) (some_char : t ≠ []) : lines t = [t] := by
  have left : (t ++ []).dropWhile (· != '\n') = [].dropWhile (· != '\n') :=
    List.dropWhile_append_of_pos (unended_of_not_mem h)
  rw [lines]
  split
  · simp [some_char]
  · simp_all

theorem lines_ended {line : Text} (h : '\n' ∉ line) (rest : Text) :
    lines (line ++ '\n' :: rest) = stripReturn line :: lines rest := by
  have found : (line ++ '\n' :: rest).dropWhile (· != '\n') = '\n' :: rest := by
    rw [List.dropWhile_append_of_pos (unended_of_not_mem h)]
    rfl
  have kept : (line ++ '\n' :: rest).takeWhile (· != '\n') = line := by
    rw [List.takeWhile_append_of_pos (unended_of_not_mem h)]
    simp
  rw [lines]
  split
  · simp_all
  · next c more left =>
    obtain ⟨-, rfl⟩ := List.cons.inj (found.symm.trans left)
    rw [kept]

end QueryInk.Text

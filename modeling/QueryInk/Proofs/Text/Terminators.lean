import QueryInk.Proofs.Text.Lines

namespace QueryInk.Text

/-- Lines as they are written: a line feed ends each. -/
def unlines (lines : List Text) : Text := lines.flatMap (· ++ ['\n'])

@[simp] theorem unlines_nil : unlines [] = [] := rfl

@[simp] theorem unlines_cons (line : Text) (lines : List Text) :
    unlines (line :: lines) = line ++ '\n' :: unlines lines := by
  simp [unlines]

theorem unended_of_mem_lines {t line : Text} (h : line ∈ lines t) : '\n' ∉ line := by
  intro member
  exact (of_mem_lines h member).2 rfl

/-! ## Cutting at line feeds -/

theorem splitOn_unended {t : Text} (h : '\n' ∉ t) : t.splitOn '\n' = [t] := by
  apply List.splitOnP_eq_singleton
  intro c member
  exact beq_false_of_ne (ne_of_mem_of_not_mem member h)

theorem splitOn_line {line : Text} (h : '\n' ∉ line) (rest : Text) :
    (line ++ '\n' :: rest).splitOn '\n' = line :: rest.splitOn '\n' := by
  apply List.splitOnP_append_cons_of_forall_mem _ _ rfl
  intro c member
  exact beq_false_of_ne (ne_of_mem_of_not_mem member h)

theorem splitOn_unlines {lines : List Text} (h : ∀ line ∈ lines, '\n' ∉ line) :
    (unlines lines).splitOn '\n' = lines ++ [[]] := by
  induction lines with
  | nil => rfl
  | cons line lines ih =>
    rw [List.forall_mem_cons] at h
    rw [unlines_cons, splitOn_line h.1, ih h.2]
    rfl

theorem unlines_injective {lines others : List Text} (h : ∀ line ∈ lines, '\n' ∉ line)
    (h' : ∀ line ∈ others, '\n' ∉ line) (same : unlines lines = unlines others) :
    lines = others := by
  have cut := congrArg (List.splitOn '\n') same
  rw [splitOn_unlines h, splitOn_unlines h'] at cut
  exact List.append_cancel_right cut

/-- The line with `i` line feeds before it, as the text has it, without a carriage return right
before the line feed that ends it. -/
def lineAt? (t : Text) (i : Nat) : Option Text :=
  (t.splitOn '\n')[i]?.map fun part =>
    if i < t.count '\n' ∧ part.getLast? = some '\r' then part.dropLast else part

theorem lineAt?_of_lines {t line : Text} {i : Nat} (h : (lines t)[i]? = some line) :
    lineAt? t i = some line := by
  unfold lineAt?
  induction t using lineInduction generalizing i with
  | unended t inside =>
    rw [lines_of_unended inside] at h
    rw [splitOn_unended inside, List.count_eq_zero.2 inside]
    split at h
    · cases h
    · simpa using h
  | ended first rest inside ih =>
    rw [lines_ended inside] at h
    rw [splitOn_line inside, List.count_append, List.count_eq_zero.2 inside, List.count_cons_self]
    cases i with
    | zero => simpa [stripReturn] using h
    | succ i => simpa using ih h

/-! ## Reading back what was written -/

theorem stripReturn_eq_self_iff {line : Text} :
    stripReturn line = line ↔ line.getLast? ≠ some '\r' := by
  unfold stripReturn
  constructor
  · intro same ends
    rw [if_pos ends] at same
    have shorter := congrArg List.length same
    rw [List.length_dropLast] at shorter
    have := List.length_pos_of_mem (List.mem_of_getLast? ends)
    omega
  · intro kept
    rw [if_neg kept]

/-- Reading back leaves the lines as they are just where none ends in a carriage return. -/
theorem map_stripReturn_iff {ls : List Text} :
    ls.map stripReturn = ls ↔ ∀ line ∈ ls, line.getLast? ≠ some '\r' := by
  have each := List.map_inj_left (l := ls) (f := stripReturn) (g := id)
  rw [List.map_id] at each
  rw [each]
  constructor
  · intro same line member
    exact stripReturn_eq_self_iff.1 (same line member)
  · intro kept line member
    exact stripReturn_eq_self_iff.2 (kept line member)

theorem lines_unlines {ls : List Text} (h : ∀ line ∈ ls, '\n' ∉ line) :
    lines (unlines ls) = ls.map stripReturn := by
  induction ls with
  | nil => exact lines_nil
  | cons line ls ih =>
    rw [List.forall_mem_cons] at h
    rw [unlines_cons, lines_ended h.1, ih h.2]
    rfl

/-! ## Mending terminators in place -/

/-- Replaces each carriage return and line feed in a row by the line feed, in one pass from the
left: a carriage return before that pair stays. -/
def foldReturns : Text → Text
  | '\r' :: '\n' :: t => '\n' :: foldReturns t
  | c :: t => c :: foldReturns t
  | [] => []

/-- Ends the last line, where there is one that is not ended. -/
def endLast (t : Text) : Text :=
  if t ≠ [] ∧ t.getLast? ≠ some '\n' then t ++ ['\n'] else t

/-- The text with a line feed alone for each terminator and one after the last line. -/
def mendTerminators (t : Text) : Text := endLast (foldReturns t)

theorem foldReturns_cons {c : Char} {t : Text} (h : c ≠ '\r' ∨ '\n' ∉ t.head?) :
    foldReturns (c :: t) = c :: foldReturns t := by
  rw [foldReturns]
  rintro rest rfl rfl
  simp at h

theorem stripReturn_cons (c : Char) {t : Text} (h : t ≠ []) :
    stripReturn (c :: t) = c :: stripReturn t := by
  have last : (c :: t).getLast? = t.getLast? := List.getLast?_cons_of_ne_nil h
  unfold stripReturn
  rw [last, List.dropLast_cons_of_ne_nil h]
  split <;> rfl

theorem foldReturns_unended {t : Text} (h : '\n' ∉ t) : foldReturns t = t := by
  induction t with
  | nil => rfl
  | cons c t ih =>
    have inside : '\n' ∉ t := fun member => h (List.mem_cons_of_mem c member)
    rw [foldReturns_cons (.inr fun front => inside (List.mem_of_head? front)), ih inside]

/-- Only the carriage return at the end of a line is followed by its line feed. -/
theorem foldReturns_line {line : Text} (h : '\n' ∉ line) (rest : Text) :
    foldReturns (line ++ '\n' :: rest) = stripReturn line ++ '\n' :: foldReturns rest := by
  induction line with
  | nil => exact foldReturns_cons (.inl (by decide))
  | cons c line ih =>
    have inside : '\n' ∉ line := fun member => h (List.mem_cons_of_mem c member)
    -- the line feed comes right after `c` only where `c` is the last of its line
    cases line with
    | nil =>
      by_cases isReturn : c = '\r'
      · subst isReturn
        rfl
      · have alone : stripReturn [c] = [c] := stripReturn_eq_self_iff.2 (by simpa using isReturn)
        rw [alone, List.singleton_append, foldReturns_cons (.inl isReturn)]
        exact congrArg (c :: ·) (ih inside)
    | cons d line =>
      have noFeed : '\n' ∉ (d :: line ++ '\n' :: rest).head? :=
        fun front => inside (List.mem_of_head? front)
      calc foldReturns (c :: (d :: line ++ '\n' :: rest))
          = c :: foldReturns (d :: line ++ '\n' :: rest) := foldReturns_cons (.inr noFeed)
        _ = c :: stripReturn (d :: line) ++ '\n' :: foldReturns rest := by
          rw [ih inside, List.cons_append]
        _ = stripReturn (c :: d :: line) ++ '\n' :: foldReturns rest := by
          rw [stripReturn_cons c (List.cons_ne_nil d line)]

theorem endLast_line (line rest : Text) :
    endLast (line ++ '\n' :: rest) = line ++ '\n' :: endLast rest := by
  cases rest with
  | nil => simp [endLast]
  | cons c rest => simp [endLast, apply_ite]

theorem unlines_lines (t : Text) : unlines (lines t) = mendTerminators t := by
  unfold mendTerminators
  induction t using lineInduction with
  | unended t inside =>
    have unended : t.getLast? ≠ some '\n' := fun ends => inside (List.mem_of_getLast? ends)
    rw [foldReturns_unended inside, lines_of_unended inside]
    cases t with
    | nil => rfl
    | cons c t => simp [endLast, unended]
  | ended line rest inside ih =>
    rw [foldReturns_line inside, endLast_line, lines_ended inside, unlines_cons, ih]

end QueryInk.Text

import QueryInk.Source

namespace QueryInk

/-- The tokens of an input and how many of them are errors. -/
structure Counts where
  tokens : Nat
  errors : Nat
  deriving DecidableEq, Repr

structure Summary where
  processed : Nat
  failed : Nat
  tokens : Nat
  errors : Nat
  deriving DecidableEq, Repr

/-- Work that can fail and whose effects on the state stay when it does. -/
abbrev Work (σ : Type) := ExceptT Failure (StateM σ)

namespace Summary

def empty : Summary := ⟨0, 0, 0, 0⟩

def withInput (s : Summary) (counts : Counts) : Summary :=
  { s with
    processed := s.processed + 1, tokens := s.tokens + counts.tokens,
    errors := s.errors + counts.errors }

def withFailure (s : Summary) : Summary := { s with failed := s.failed + 1 }

/-- The largest count that a counter of 64 bits holds. -/
def maxCount : Nat := 0xFFFFFFFFFFFFFFFF

/-- Whether such counters hold the counts. The sums themselves are exact. -/
def fits (s : Summary) : Bool :=
  s.processed ≤ maxCount && s.failed ≤ maxCount && s.tokens ≤ maxCount && s.errors ≤ maxCount

end Summary

/-- How far the inputs of a run have been worked through: the counts so far, and the failure that
put an end to it, if one did. -/
structure Progress where
  summary : Summary
  stopped : Option Failure
  deriving DecidableEq, Repr

namespace Progress

/-- What the work amounts to. Inputs that failed make the whole fail in the end. -/
def outcome (p : Progress) : Except Failure Summary :=
  match p.stopped with
  | some failure => .error failure
  | none =>
    if 0 < p.summary.failed then .error (.execution (.inputsFailed p.summary.failed))
    else .ok p.summary

/-- The outcome, unless a counter of 64 bits ran over on the way. -/
def outcome? (p : Progress) : Option (Except Failure Summary) :=
  if p.summary.fits then some p.outcome else none

end Progress

namespace Summary

variable {σ α : Type}

/-- Emits the results that are there and notes the failures, from left to right. -/
def tally (emit : Source → α → Work σ Counts) (note : Source → Failure → StateM σ Unit) :
    Summary → List (Source × Except Failure α) → StateM σ Progress
  | summary, [] => pure ⟨summary, none⟩
  | summary, (source, .ok value) :: rest => do
    match ← (emit source value).run with
    | .ok counts => tally emit note (summary.withInput counts) rest
    | .error failure => return ⟨summary, some failure⟩
  | summary, (source, .error failure) :: rest => do
    note source failure
    tally emit note summary.withFailure rest

/-- Works through all inputs of a run. -/
def report (emit : Source → α → Work σ Counts) (note : Source → Failure → StateM σ Unit)
    (outcomes : List (Source × Except Failure α)) : Work σ Summary :=
  ExceptT.mk do return (← tally emit note empty outcomes).outcome

/-! What becomes of the first input decides how the walk goes on. -/

section
variable {emit : Source → α → Work σ Counts} {note : Source → Failure → StateM σ Unit}
  {source : Source} {value : α} {failure : Failure} {state after : σ} (s : Summary)
  (rest : List (Source × Except Failure α))

theorem tally_emitted {counts : Counts}
    (emitted : (emit source value).run state = (.ok counts, after)) :
    (tally emit note s ((source, .ok value) :: rest)).run state =
      (tally emit note (s.withInput counts) rest).run after := by
  have step : StateT.run (ExceptT.run (emit source value)) state = (.ok counts, after) := emitted
  rw [tally, StateT.run_bind, step]
  rfl

theorem tally_refused (refused : (emit source value).run state = (.error failure, after)) :
    (tally emit note s ((source, .ok value) :: rest)).run state =
      (⟨s, some failure⟩, after) := by
  have step : StateT.run (ExceptT.run (emit source value)) state = (.error failure, after) :=
    refused
  rw [tally, StateT.run_bind, step]
  rfl

theorem tally_noted (noted : (note source failure).run state = ((), after)) :
    (tally emit note s ((source, .error failure) :: rest)).run state =
      (tally emit note s.withFailure rest).run after := by
  rw [tally, StateT.run_bind, noted]
  rfl

/-- A report is the walk with its outcome read off at the end. -/
theorem run_report {progress : Progress}
    (walk : (tally emit note empty rest).run state = (progress, after)) :
    (report emit note rest).run state = (progress.outcome, after) := by
  change (((tally emit note empty rest).run state).1.outcome,
    ((tally emit note empty rest).run state).2) = _
  rw [walk]

end

end Summary

end QueryInk

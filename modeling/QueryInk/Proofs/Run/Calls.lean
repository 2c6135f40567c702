import Mathlib.Algebra.Ring.Nat
import QueryInk.Run.Summary

/-!
# The calls that a walk makes

A walk hands the results that are there to an emitter, which may keep a state of
its own and may fail at any call. `recorded` writes down each call with its answer,
and `Walked` says what the record of a walk is: step by step (`Walked.noted`,
`Walked.emitted`, `Walked.refused`), and then for all outcomes (`tally_recorded`).
-/

namespace QueryInk.Summary

/-- A call of the emitter, with its answer. -/
structure Call (α : Type) where
  source : Source
  value : α
  answer : Except Failure Counts
  deriving Repr

variable {σ α : Type}

/-- What the emitter was called for. -/
def Call.asked (call : Call α) : Source × α := (call.source, call.value)

/-- No call failed. -/
def Accepted (calls : List (Call α)) : Prop := ∀ call ∈ calls, call.answer.isOk = true

/-- What the calls that did not fail returned. -/
def returned (calls : List (Call α)) : List Counts := calls.filterMap (·.answer.toOption)

/-- The emitter with a record of its calls. -/
def recorded (emit : Source → α → Work σ Counts) (source : Source) (value : α) :
    Work (σ × List (Call α)) Counts := fun (state, calls) =>
  match (emit source value).run state with
  | (answer, after) => (answer, after, calls ++ [⟨source, value, answer⟩])

/-- Notes are not calls of the emitter. -/
def unrecorded (note : Source → Failure → StateM σ Unit) (source : Source) (failure : Failure) :
    StateM (σ × List (Call α)) Unit := fun (state, calls) =>
  ((), ((note source failure).run state).2, calls)

/-- The results that are there, each with its source. -/
def present (outcomes : List (Source × Except Failure α)) : List (Source × α) :=
  outcomes.filterMap fun (source, result) => result.toOption.map (source, ·)

/-- How many results are failures. -/
def lost (results : List (Except Failure α)) : Nat := results.countP fun result => !result.isOk

/-- The summary that counts in all outcomes, by what the emitter returned. -/
def counting (s : Summary) (outcomes : List (Source × Except Failure α)) (calls : List (Call α)) :
    Summary where
  processed := s.processed + (present outcomes).length
  failed := s.failed + lost (outcomes.map Prod.snd)
  tokens := s.tokens + ((returned calls).map Counts.tokens).sum
  errors := s.errors + ((returned calls).map Counts.errors).sum

theorem length_present (outcomes : List (Source × Except Failure α)) :
    (present outcomes).length + lost (outcomes.map Prod.snd) = outcomes.length := by
  induction outcomes with
  | nil => rfl
  | cons outcome rest ih =>
    obtain ⟨source, failure | value⟩ := outcome <;>
      simp [present, lost, Except.toOption, Except.toBool] at ih ⊢ <;> omega

/-! What is counted in first may as well be counted in last. -/

section
variable (s : Summary) (source : Source) (rest : List (Source × Except Failure α))
  (calls : List (Call α))

theorem counting_noted (failure : Failure) :
    s.withFailure.counting rest calls = s.counting ((source, .error failure) :: rest) calls := by
  simp [counting, withFailure, present, lost, Except.toOption, Except.toBool]
  omega

theorem counting_emitted (value : α) (counts : Counts) :
    (s.withInput counts).counting rest calls =
      s.counting ((source, .ok value) :: rest) (⟨source, value, .ok counts⟩ :: calls) := by
  simp [counting, withInput, present, lost, returned, Except.toOption, Except.toBool]
  omega

end

/-! ## Calls and progress of a walk -/

/-- The calls are for the results that are there, up to the first call that fails. -/
structure Asks (outcomes : List (Source × Except Failure α)) (calls : List (Call α)) : Prop where
  in_order : calls.map Call.asked <+: present outcomes
  /-- After a call that fails there is no other. -/
  goes_on : Accepted calls.dropLast
  complete : Accepted calls → calls.map Call.asked = present outcomes

/-- What a walk from a summary on calls and comes to. -/
structure Walked (s : Summary) (outcomes : List (Source × Except Failure α))
    (calls : List (Call α)) (progress : Progress) : Prop extends Asks outcomes calls where
  stops : ∀ call ∈ calls, ∀ failure, call.answer = .error failure → progress.stopped = some failure
  counts : Accepted calls → progress = ⟨s.counting outcomes calls, none⟩

namespace Walked

variable {s : Summary} {rest : List (Source × Except Failure α)} {calls : List (Call α)}
  {progress : Progress} (source : Source)

theorem nil (s : Summary) : Walked (α := α) s [] [] ⟨s, none⟩ where
  in_order := List.nil_prefix
  goes_on := by simp [Accepted]
  stops := by simp
  complete _ := rfl
  counts _ := rfl

theorem noted (failure : Failure) (walked : Walked s.withFailure rest calls progress) :
    Walked s ((source, .error failure) :: rest) calls progress where
  in_order := walked.in_order
  goes_on := walked.goes_on
  stops := walked.stops
  complete := walked.complete
  counts accepted := by
    rw [walked.counts accepted, counting_noted s source rest calls failure]

theorem emitted (value : α) {counts : Counts}
    (walked : Walked (s.withInput counts) rest calls progress) :
    Walked s ((source, .ok value) :: rest) (⟨source, value, .ok counts⟩ :: calls) progress where
  in_order := List.cons_prefix_cons.2 ⟨rfl, walked.in_order⟩
  goes_on := by
    cases calls with
    | nil => simp [Accepted]
    | cons call calls => exact List.forall_mem_cons.2 ⟨rfl, walked.goes_on⟩
  stops := by
    intro call made failure failed
    rcases List.mem_cons.1 made with rfl | later
    · cases failed
    · exact walked.stops call later failure failed
  complete accepted :=
    congrArg ((source, value) :: ·) (walked.complete (List.forall_mem_cons.1 accepted).2)
  counts accepted := by
    rw [walked.counts (List.forall_mem_cons.1 accepted).2,
      counting_emitted s source rest calls value counts]

theorem refused (s : Summary) (rest : List (Source × Except Failure α)) (value : α)
    (failure : Failure) :
    Walked s ((source, .ok value) :: rest) [⟨source, value, .error failure⟩]
      ⟨s, some failure⟩ where
  in_order := List.cons_prefix_cons.2 ⟨rfl, List.nil_prefix⟩
  goes_on := by simp [Accepted]
  stops := by
    intro call made other failed
    obtain rfl := List.mem_singleton.1 made
    cases failed
    rfl
  complete accepted := by simp [Accepted, Except.toBool] at accepted
  counts accepted := by simp [Accepted, Except.toBool] at accepted

end Walked

variable (emit : Source → α → Work σ Counts) (note : Source → Failure → StateM σ Unit)

theorem run_recorded {source : Source} {value : α} {state after : σ}
    {answer : Except Failure Counts} (before : List (Call α))
    (called : (emit source value).run state = (answer, after)) :
    (recorded emit source value).run (state, before) =
      (answer, after, before ++ [⟨source, value, answer⟩]) := by
  rw [ExceptT.run, recorded, called]

/-- The record of a walk, after what stood in it before. The walk itself does not change. -/
theorem tally_recorded (s : Summary) (outcomes : List (Source × Except Failure α)) (state : σ)
    (before : List (Call α)) :
    ∃ calls progress after,
      (tally emit note s outcomes).run state = (progress, after) ∧
      (tally (recorded emit) (unrecorded note) s outcomes).run (state, before) =
        (progress, after, before ++ calls) ∧
      Walked s outcomes calls progress := by
  -- Both walks get the same answers, so one induction follows them side by side.
  induction outcomes generalizing s state before with
  | nil => exact ⟨[], ⟨s, none⟩, state, rfl, by rw [List.append_nil]; rfl, .nil s⟩
  | cons outcome rest ih =>
    obtain ⟨source, failure | value⟩ := outcome
    · let after := ((note source failure).run state).2
      have noted : (note source failure).run state = ((), after) := rfl
      have noted' : (unrecorded note source failure).run (state, before) =
        ((), after, before) := rfl
      obtain ⟨calls, progress, last, walk, walk', walked⟩ := ih s.withFailure after before
      refine ⟨calls, progress, last, ?_, ?_, walked.noted source failure⟩
      · rw [tally_noted s rest noted, walk]
      · rw [tally_noted s rest noted', walk']
    · cases called : (emit source value).run state with
      | mk answer after =>
        have called' := run_recorded emit before called
        cases answer with
        | error failure =>
          refine ⟨_, ⟨s, some failure⟩, after, ?_, ?_, .refused source s rest value failure⟩
          · exact tally_refused s rest called
          · exact tally_refused s rest called'
        | ok counts =>
          obtain ⟨calls, progress, last, walk, walk', walked⟩ :=
            ih (s.withInput counts) after (before ++ [⟨source, value, .ok counts⟩])
          refine ⟨_, progress, last, ?_, ?_, walked.emitted source value⟩
          · rw [tally_emitted s rest called, walk]
          · rw [tally_emitted s rest called', walk', List.append_assoc]
            rfl

/-! ## The report -/

/-- What a report calls and returns. -/
structure Reported (sources : List Source) (results : List (Except Failure α))
    (calls : List (Call α)) (outcome : Except Failure Summary) : Prop
    extends Asks (sources.zip results) calls where
  refused : ∀ call ∈ calls, ∀ failure, call.answer = .error failure → outcome = .error failure
  failed : Accepted calls → 0 < lost results →
    ∃ why, outcome = .error (.execution why) ∧
      why.message = s!"{lost results} input(s) failed to process"
  summed : Accepted calls → lost results = 0 →
    outcome = .ok
      { processed := sources.length
        failed := 0
        tokens := ((returned calls).map Counts.tokens).sum
        errors := ((returned calls).map Counts.errors).sum }

theorem Walked.reported {sources : List Source} {results : List (Except Failure α)}
    {calls : List (Call α)} {progress : Progress} (same : sources.length = results.length)
    (walked : Walked empty (sources.zip results) calls progress) :
    Reported sources results calls progress.outcome := by
  have all : (sources.zip results).map Prod.snd = results := List.map_snd_zip (by omega)
  have sizes := length_present (sources.zip results)
  rw [all, List.length_zip, ← same, Nat.min_self] at sizes
  refine ⟨walked.toAsks, ?_, ?_, ?_⟩
  · intro call made failure failed
    rw [Progress.outcome, walked.stops call made failure failed]
  · intro accepted some_lost
    refine ⟨.inputsFailed (lost results), ?_, rfl⟩
    rw [walked.counts accepted]
    simp [Progress.outcome, counting, empty, all, some_lost]
  · intro accepted none_lost
    rw [walked.counts accepted]
    simp [Progress.outcome, counting, empty, all, none_lost]
    omega

/-- A report calls the emitter on the results that are there, in order, up to the first call that
fails. Such a failure is the failure of the report. If there is none, results that are not there
make the report fail, and otherwise it sums up what the emitter returned. -/
theorem report_calls (sources : List Source) (results : List (Except Failure α))
    (same : sources.length = results.length) (state : σ) :
    ∃ calls outcome after,
      (report emit note (sources.zip results)).run state = (outcome, after) ∧
      (report (recorded emit) (unrecorded note) (sources.zip results)).run (state, []) =
        (outcome, after, calls) ∧
      Reported sources results calls outcome := by
  obtain ⟨calls, progress, after, walk, walk', walked⟩ :=
    tally_recorded emit note empty (sources.zip results) state []
  exact ⟨calls, progress.outcome, after, run_report _ walk, run_report _ walk',
    walked.reported same⟩

/-- The first input is lost, and the emitter refuses the second of three results. -/
theorem report_calls_refused :
    let sources : List Source := [.file "a", .expr ['1'], .stdin, .file "b"]
    let results : List (Except Failure Nat) := [.error (.io .absent), .ok 1, .ok 2, .ok 3]
    let emit (_ : Source) (n : Nat) : Work Nat Counts := fun total =>
      (if total < 1 then .ok ⟨n, 0⟩ else .error (.io .sinkFull), total + n)
    sources.length = results.length ∧
      ∃ calls after,
        (report emit (fun _ _ => pure ()) (sources.zip results)).run 0 =
          (.error (.io .sinkFull), after) ∧
        calls.map Call.asked = [(.expr ['1'], 1), (.stdin, 2)] ∧
        Reported sources results calls (.error (.io .sinkFull)) := by
  intro sources results emit
  obtain ⟨calls, outcome, after, run, run', reported⟩ :=
    report_calls emit (fun _ _ => pure ()) sources results rfl 0
  cases run
  cases run'
  exact ⟨rfl, _, _, rfl, rfl, reported⟩

end QueryInk.Summary

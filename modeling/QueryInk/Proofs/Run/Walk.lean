import QueryInk.Proofs.Run.Reading

namespace QueryInk

theorem Work.run_bind {σ α β : Type} (x : Work σ α) (f : α → Work σ β) (state : σ) :
    (x >>= f).run state =
      match x.run state with
      | (.ok a, state) => (f a).run state
      | (.error failure, state) => (.error failure, state) := by
  unfold ExceptT.run
  simp only [bind, ExceptT.bind, ExceptT.mk, StateT.bind, ExceptT.bindCont]
  cases x state with
  | mk result next => cases result <;> rfl

theorem Work.run_bind_ok {σ α β : Type} {x : Work σ α} {state after : σ} {a : α}
    (h : x.run state = (.ok a, after)) (f : α → Work σ β) :
    (x >>= f).run state = (f a).run after := by
  rw [run_bind, h]

theorem Work.run_bind_error {σ α β : Type} {x : Work σ α} {state after : σ} {failure : Failure}
    (h : x.run state = (.error failure, after)) (f : α → Work σ β) :
    (x >>= f).run state = (.error failure, after) := by
  rw [run_bind, h]

namespace Sink

/-- Writes one chunk after the other, up to the first that fails. -/
def writeAll (sink : Sink) : List Bytes → Except IoFault Unit × Sink
  | [] => (.ok (), sink)
  | bytes :: more =>
    match sink.write bytes with
    | (.ok (), sink) => sink.writeAll more
    | (.error fault, sink) => (.error fault, sink)

theorem writeAll_append (sink : Sink) (first second : List Bytes) :
    sink.writeAll (first ++ second) =
      match sink.writeAll first with
      | (.ok (), sink) => sink.writeAll second
      | (.error fault, sink) => (.error fault, sink) := by
  induction first generalizing sink with
  | nil => rfl
  | cons bytes first ih =>
    simp only [List.cons_append, writeAll]
    split
    · exact ih _
    · rfl

/-- Writes an array and a line feed. It makes a difference in which of the two the sink fails. -/
def dump (sink : Sink) (array : Bytes) : Except Failure Unit × Sink :=
  match sink.write array with
  | (.error fault, sink) => (.error (.json fault), sink)
  | (.ok (), sink) =>
    match sink.write [lineFeed] with
    | (.error fault, sink) => (.error (.io fault), sink)
    | (.ok (), sink) => (.ok (), sink)

end Sink

/-! ## One result -/

namespace Journal

theorem run_write (because : IoFault → Failure) (text : Text) (journal : Journal) :
    (write because text).run journal =
      match journal.sink.write (Text.utf8 text) with
      | (.ok (), sink) => (.ok (), { journal with sink })
      | (.error fault, sink) => (.error (because fault), { journal with sink }) := rfl

theorem run_forM_write (because : IoFault → Failure) (chunks : List Text) (journal : Journal) :
    (chunks.forM (write because)).run journal =
      match journal.sink.writeAll (chunks.map Text.utf8) with
      | (.ok (), sink) => (.ok (), { journal with sink })
      | (.error fault, sink) => (.error (because fault), { journal with sink }) := by
  induction chunks generalizing journal with
  | nil => rfl
  | cons chunk chunks ih =>
    rw [List.forM, Work.run_bind, run_write, List.map_cons, Sink.writeAll]
    cases journal.sink.write (Text.utf8 chunk) with
    | mk taken sink =>
      cases taken with
      | ok => exact ih { journal with sink }
      | error fault => rfl

theorem run_emit (source : Source) (output : Output) (journal : Journal) :
    (emit source output).run journal =
      match journal.sink.writeAll (output.chunks.map Text.utf8) with
      | (.ok (), sink) =>
        (.ok output.counts, { journal with sink, held := journal.held ++ output.records })
      | (.error fault, sink) => (.error (.io fault), { journal with sink }) := by
  rw [emit, Work.run_bind, run_forM_write]
  cases journal.sink.writeAll (output.chunks.map Text.utf8) with
  | mk taken sink =>
    cases taken with
    | ok => rfl
    | error fault => rfl

theorem run_noteFailure (source : Source) (failure : Failure) (journal : Journal) :
    (noteFailure source failure).run journal =
      ((), { journal with log := journal.log.push (.inputFailed source.name failure) }) := rfl

end Journal

/-! ## All results -/

/-- Sources, each with what came of it. -/
abbrev Outcomes := List (Source × Except Failure Output)

namespace Outcomes

/-- What the command made of the sources that could be read. -/
def outputs (outcomes : Outcomes) : List Output :=
  outcomes.filterMap fun (_, result) => result.toOption

def failures (outcomes : Outcomes) : List LogEntry :=
  outcomes.filterMap fun (source, result) =>
    match result with
    | .ok _ => none
    | .error failure => some (.inputFailed source.name failure)

def chunks (outcomes : Outcomes) : List Bytes :=
  outcomes.outputs.flatMap fun output => output.chunks.map Text.utf8

def records (outcomes : Outcomes) : List Record := outcomes.outputs.flatMap (·.records)

/-- A summary with all outcomes counted in. -/
def total (outcomes : Outcomes) (s : Summary) : Summary :=
  outcomes.foldl (fun s (_, result) =>
    match result with
    | .ok output => s.withInput output.counts
    | .error _ => s.withFailure) s

variable (source : Source) (output : Output) (failure : Failure) (rest : Outcomes) (s : Summary)

theorem chunks_ok : chunks ((source, .ok output) :: rest) =
    output.chunks.map Text.utf8 ++ chunks rest := rfl

theorem records_ok : records ((source, .ok output) :: rest) = output.records ++ records rest := rfl

theorem records_error : records ((source, .error failure) :: rest) = records rest := rfl

theorem failures_ok : failures ((source, .ok output) :: rest) = failures rest := rfl

theorem failures_error : failures ((source, .error failure) :: rest) =
    .inputFailed source.name failure :: failures rest := rfl

theorem total_ok :
    total ((source, .ok output) :: rest) s = total rest (s.withInput output.counts) := rfl

theorem total_error : total ((source, .error failure) :: rest) s = total rest s.withFailure := rfl

end Outcomes

namespace Summary
open Journal (emit noteFailure)

variable (s : Summary) (outcomes : Outcomes) {journal : Journal} {sink : Sink}

/-- The walk to its end. -/
theorem tally_written (taken : journal.sink.writeAll outcomes.chunks = (.ok (), sink)) :
    (tally emit noteFailure s outcomes).run journal =
      (⟨outcomes.total s, none⟩,
        ⟨sink, journal.log ++ outcomes.failures, journal.held ++ outcomes.records⟩) := by
  induction outcomes generalizing s journal with
  | nil =>
    cases taken
    simp [tally, Outcomes.total, Outcomes.outputs, Outcomes.failures, Outcomes.records]
    rfl
  | cons outcome rest ih =>
    obtain ⟨source, failure | output⟩ := outcome
    · let noted := { journal with log := journal.log.push (.inputFailed source.name failure) }
      have later : (tally emit noteFailure s.withFailure rest).run noted = _ := ih _ taken
      rw [tally_noted s rest (Journal.run_noteFailure source failure journal), later,
        Outcomes.total_error, Outcomes.records_error, Outcomes.failures_error]
      simp [noted]
    · rw [Outcomes.chunks_ok, Sink.writeAll_append] at taken
      have emitted := Journal.run_emit source output journal
      cases first : journal.sink.writeAll (output.chunks.map Text.utf8) with
      | mk result between =>
        rw [first] at taken emitted
        cases result with
        | error fault => cases taken
        | ok =>
          rw [tally_emitted s rest emitted, ih _ taken, Outcomes.total_ok, Outcomes.records_ok,
            Outcomes.failures_ok, List.append_assoc]

/-- The walk up to a write that fails. -/
theorem tally_stopped {fault : IoFault}
    (refused : journal.sink.writeAll outcomes.chunks = (.error fault, sink)) :
    ∃ reached log held, (tally emit noteFailure s outcomes).run journal =
      (⟨reached, some (.io fault)⟩, ⟨sink, log, held⟩) := by
  induction outcomes generalizing s journal with
  | nil => cases refused
  | cons outcome rest ih =>
    obtain ⟨source, failure | output⟩ := outcome
    · rw [tally_noted s rest (Journal.run_noteFailure source failure journal)]
      exact ih _ refused
    · rw [Outcomes.chunks_ok, Sink.writeAll_append] at refused
      have emitted := Journal.run_emit source output journal
      cases first : journal.sink.writeAll (output.chunks.map Text.utf8) with
      | mk result between =>
        rw [first] at refused emitted
        cases result with
        | error fault =>
          cases refused
          exact ⟨s, _, _, tally_refused s rest emitted⟩
        | ok =>
          rw [tally_emitted s rest emitted]
          exact ih _ refused

variable (journal) in
/-- What the walk through all results leaves behind where the sink takes every chunk. -/
theorem report_written (taken : journal.sink.writeAll outcomes.chunks = (.ok (), sink)) :
    (report emit noteFailure outcomes).run journal =
      ((Progress.mk (outcomes.total empty) none).outcome,
        ⟨sink, journal.log ++ outcomes.failures, journal.held ++ outcomes.records⟩) :=
  run_report outcomes (tally_written empty outcomes taken)

variable (journal) in
theorem report_stopped {fault : IoFault}
    (refused : journal.sink.writeAll outcomes.chunks = (.error fault, sink)) :
    ∃ log held, (report emit noteFailure outcomes).run journal =
      (.error (.io fault), ⟨sink, log, held⟩) := by
  obtain ⟨reached, log, held, walk⟩ := tally_stopped empty outcomes refused
  exact ⟨log, held, run_report outcomes walk⟩

end Summary

/-! ## After the walk -/

namespace Command

/-- Whether the command writes its records as an array after the walk. -/
def dumpsJson : Command → Bool
  | tokens .json => true
  | _ => false

theorem eq_of_dumpsJson {command : Command} (dumps : command.dumpsJson = true) :
    command = tokens .json := by
  cases command with
  | check => cases dumps
  | highlight => cases dumps
  | tokens format =>
    cases format with
    | text => cases dumps
    | json => rfl

/-- What the outcome of the walk comes to once all is written. -/
def settle : Command → Except Failure Summary → Except Failure Summary
  | check, .ok summary =>
    if 0 < summary.errors then .error (.execution (.errorTokens summary.errors)) else .ok summary
  | _, outcome => outcome

variable {command : Command} {walked : Work Journal Summary} {journal after : Journal}
  {outcome : Except Failure Summary}

theorem run_flush (journal : Journal) :
    Journal.flush.run journal = (journal.sink.flush.mapError .io, journal) := rfl

theorem run_lift (walk : walked.run journal = (outcome, after)) :
    (ExceptT.lift walked.run : Work Journal (Except Failure Summary)).run journal =
      (.ok outcome, after) := by
  change (Except.ok (walked.run journal).1, (walked.run journal).2) = _
  rw [walk]

theorem run_liftExcept (outcome : Except Failure Summary) (journal : Journal) :
    (liftExcept outcome : Work Journal Summary).run journal = (outcome, journal) := by
  cases outcome <;> rfl

/-- How a run ends by what came of the walk and of the flush. A dump is flushed in any case, and a
flush that fails comes before what the walk has to say. -/
def closing (command : Command) (walked : Except Failure Summary) (flushed : Except IoFault Unit) :
    Except Failure Summary :=
  match command, walked, flushed with
  | tokens _, _, .error fault => .error (.io fault)
  | tokens _, outcome, .ok () => outcome
  | _, .error failure, _ => .error failure
  | _, .ok _, .error fault => .error (.io fault)
  | command, .ok summary, .ok () => command.settle (.ok summary)

theorem closing_flushed (command : Command) (outcome : Except Failure Summary) :
    command.closing outcome (.ok ()) = command.settle outcome := by
  cases command <;> cases outcome <;> rfl

/-- A command that has written all during the walk only flushes and gives its verdict. -/
theorem conclude_plain (plain : command.dumpsJson = false)
    (walk : walked.run journal = (outcome, after)) :
    (command.conclude walked).run journal =
      (command.closing outcome after.sink.flush, after) := by
  have flush := run_flush after
  generalize after.sink.flush = flushed at flush ⊢
  cases command with
  | check =>
    rw [conclude]
    cases outcome with
    | error failure => exact Work.run_bind_error walk _
    | ok summary =>
      rw [Work.run_bind_ok walk]
      cases flushed with
      | error fault => exact Work.run_bind_error flush _
      | ok =>
        rw [Work.run_bind_ok flush, closing_flushed, settle]
        split <;> rfl
  | highlight theme color =>
    rw [conclude]
    cases outcome with
    | error failure => exact Work.run_bind_error walk _
    | ok summary =>
      rw [Work.run_bind_ok walk]
      cases flushed with
      | error fault => exact Work.run_bind_error flush _
      | ok => exact Work.run_bind_ok flush _
  | tokens format =>
    cases format with
    | json => cases plain
    | text =>
      rw [conclude, Work.run_bind_ok (run_lift walk), if_neg (by decide)]
      cases flushed with
      | error fault => exact Work.run_bind_error flush _
      | ok =>
        rw [Work.run_bind_ok flush]
        exact run_liftExcept outcome after

/-- A JSON dump is written whatever came of the walk. -/
theorem run_dumpHeld (journal : Journal) :
    dumpHeld.run journal =
      match journal.sink.dump (Text.utf8 (Record.dumpJson journal.held)) with
      | (.ok (), sink) => (.ok (), { journal with sink })
      | (.error failure, sink) => (.error failure, { journal with sink }) := by
  have held : (get : Work Journal Journal).run journal = (.ok journal, journal) := rfl
  rw [dumpHeld, Work.run_bind_ok held, Work.run_bind, Journal.run_write, Sink.dump]
  cases journal.sink.write (Text.utf8 (Record.dumpJson journal.held)) with
  | mk taken between =>
    cases taken with
    | error fault => rfl
    | ok =>
      dsimp only
      rw [Journal.run_write, show Text.utf8 ['\n'] = [Sink.lineFeed] from rfl]
      cases between.write [Sink.lineFeed] with
      | mk taken last => cases taken <;> rfl

variable {sink : Sink}

theorem conclude_json (walk : walked.run journal = (outcome, after))
    (taken : after.sink.dump (Text.utf8 (Record.dumpJson after.held)) = (.ok (), sink)) :
    ((tokens .json).conclude walked).run journal =
      ((tokens .json).closing outcome sink.flush, { after with sink }) := by
  have dumped := run_dumpHeld after
  rw [taken] at dumped
  have flush := run_flush { after with sink }
  dsimp only at flush
  generalize sink.flush = flushed at flush ⊢
  rw [conclude, Work.run_bind_ok (run_lift walk), if_pos rfl, Work.run_bind_ok dumped]
  cases flushed with
  | error fault => exact Work.run_bind_error flush _
  | ok =>
    rw [Work.run_bind_ok flush]
    exact run_liftExcept outcome _

theorem conclude_undumped {failure : Failure} (walk : walked.run journal = (outcome, after))
    (refused : after.sink.dump (Text.utf8 (Record.dumpJson after.held)) = (.error failure, sink)) :
    ((tokens .json).conclude walked).run journal = (.error failure, { after with sink }) := by
  have dumped := run_dumpHeld after
  rw [refused] at dumped
  rw [conclude, Work.run_bind_ok (run_lift walk), if_pos rfl]
  exact Work.run_bind_error dumped _

end Command

/-- The outputs of a run are those of the sources that can be read. -/
theorem Request.outputs_eq {request : Request} {sources : List Source}
    (accepted : Source.ofArguments request.files request.expr = .ok sources) (files : Files)
    (input : Bytes) :
    Outcomes.outputs (sources.zip (request.results files input sources)) =
      sources.filterMap fun source =>
        (source.content files input).toOption.map
          (request.command.output (several sources) source) := by
  rw [results_eq accepted, ← List.map_prod_left_eq_zip, Outcomes.outputs, List.filterMap_map]
  congr 1
  funext source
  cases found : source.content files input <;> simp [found, Except.map, Except.toOption]

/-- The last log entry aside, a run ends as its command concludes. -/
theorem Request.run_reportOn {request : Request} {sources : List Source}
    {results : List (Except Failure Output)} {journal after : Journal}
    {outcome : Except Failure Summary}
    (concluded : (request.command.conclude (Summary.report Journal.emit Journal.noteFailure
      (sources.zip results))).run journal = (outcome, after)) :
    ∃ log, (request.reportOn sources results).run journal = (outcome, { after with log }) := by
  rw [reportOn]
  cases outcome with
  | error failure => exact ⟨after.log, Work.run_bind_error concluded _⟩
  | ok summary =>
    rw [Work.run_bind_ok concluded]
    cases request.verbose with
    | false => exact ⟨after.log, rfl⟩
    | true => exact ⟨_, rfl⟩

end QueryInk

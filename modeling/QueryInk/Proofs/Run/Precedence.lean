import QueryInk.Proofs.Run.Verdict

/-!
# Which failure wins

A run that cannot accept its arguments or start its workers does nothing else. Any
other run ends by the first thing that goes wrong in the ranking of its command.
-/

namespace QueryInk

namespace Command

theorem check_ok {m : Mishaps} {summary result : Summary} :
    verdict (check.ranking m) summary = .ok result ↔
      m.write = none ∧ m.inputs = none ∧ m.flush = none ∧ m.tokens = none ∧ summary = result := by
  simp [ranking, verdict_cons_ok, verdict_nil]

/-- If a check fails by its error tokens, nothing that comes before them has gone wrong. -/
theorem check_errorTokens {summary : Summary} {room : Option Nat} {size n : Nat}
    {fault : Option IoFault}
    (ended : verdict (check.ranking (summary.mishaps (check.overflow room size) fault)) summary =
      .error (.execution (.errorTokens n))) :
    check.overflow room size = none ∧ summary.failed = 0 ∧ summary.errors = n := by
  simp only [ranking, Summary.mishaps, verdict_cons_error] at ended
  rcases ended with write | ⟨fits, inputs | ⟨kept, flush | ⟨-, tokens | ⟨-, last⟩⟩⟩⟩
  · cases overflow_plain rfl write
  · split at inputs <;> simp at inputs
  · simp at flush
  · refine ⟨fits, by simpa using kept, ?_⟩
    split at tokens
    · simpa using tokens
    · cases tokens
  · cases last

end Command

theorem Source.ofArguments_error {paths : List String} {expr : Option Text} {failure : Failure}
    (rejected : ofArguments paths expr = .error failure) : ∃ why, failure = .argument why := by
  cases expr with
  | some text => cases rejected
  | none =>
    simp only [ofArguments] at rejected
    split at rejected
    · exact ⟨_, (Except.error.inj rejected).symm⟩
    split at rejected
    · exact ⟨_, (Except.error.inj rejected).symm⟩
    · cases rejected

theorem Workers.assemble_error {workers : Workers} {failure : Failure}
    (unassembled : workers.assemble = .error failure) :
    ∃ why, workers.start (max 1 workers.asked) = .error why ∧
      failure = .execution (.noWorkers why) := by
  unfold assemble at unassembled
  cases started : workers.start (max 1 workers.asked) with
  | error why =>
    rw [started] at unassembled
    exact ⟨why, rfl, (Except.error.inj unassembled).symm⟩
  | ok _ =>
    rw [started] at unassembled
    cases unassembled

/-- Workers that could be assembled were started, one at least. -/
theorem Workers.start_of_assemble {workers : Workers} (assembled : workers.assemble = .ok ()) :
    workers.start (max 1 workers.asked) = .ok () := by
  unfold assemble at assembled
  cases started : workers.start (max 1 workers.asked) with
  | error why =>
    rw [started] at assembled
    cases assembled
  | ok _ => rfl

namespace Request

variable {request : Request} {sources : List Source} {workers : Workers} (room : Option Nat)
  (fault : Option IoFault) (files : Files) (input : Bytes)

/-- What is said of a run on a sink with so much room, whose flush may fail: how it ends, and what
it has written by then. -/
structure Judged (request : Request) (workers : Workers) (files : Files) (input : Bytes)
    (room : Option Nat) (fault : Option IoFault) (result : Except Failure Summary)
    (written : Bytes) : Prop where
  /-- Arguments that cannot be accepted come before all else, and nothing is written. -/
  rejected : ∀ failure, Source.ofArguments request.files request.expr = .error failure →
    (∃ why, failure = .argument why) ∧ result = .error failure ∧ written = []
  /-- Nor is anything written if the workers, one at least, cannot be started. -/
  unassembled : ∀ sources why, Source.ofArguments request.files request.expr = .ok sources →
    workers.start (max 1 workers.asked) = .error why →
    result = .error (.execution (.noWorkers why)) ∧ written = []
  /-- Then the first mishap in the ranking of the command is the result. If there is none, all
  sources have been processed, and the counts are sums over their texts. -/
  ranked : ∀ sources, Source.ofArguments request.files request.expr = .ok sources →
    workers.assemble = .ok () →
    let texts := Source.readable files input sources
    let lost := Source.lost files input sources
    let bytes := Text.utf8 (request.command.transcript (1 < sources.length) texts)
    let tokens := (texts.map fun (_, text) => (Findings.ofText text).tokens).sum
    let errors := (texts.map fun (_, text) => (Findings.ofText text).diagnostics.length).sum
    result = verdict
      (request.command.ranking {
        write := request.command.overflow room bytes.length
        flush := fault.map .io
        inputs := if 0 < lost then some (.execution (.inputsFailed lost)) else none
        tokens := if 0 < errors then some (.execution (.errorTokens errors)) else none })
      ⟨sources.length, 0, tokens, errors⟩
  /-- A check that fails by its error tokens has read all sources and has written a line about each
  diagnostic. Where no name holds a line feed, that is also how many line feeds it has written. -/
  counted : request.command = .check → ∀ n, result = .error (.execution (.errorTokens n)) →
    ∃ sources, Source.ofArguments request.files request.expr = .ok sources ∧
      Source.lost files input sources = 0 ∧
      let found := Diagnostic.ofTexts (Source.readable files input sources)
      found.length = n ∧ written = Text.utf8 (Diagnostic.reports found) ∧
        ((∀ source ∈ sources, '\n' ∉ source.label.toList) → written.count 10 = n)
  /-- A check that succeeds has no error tokens to count. -/
  faultless : request.command = .check → ∀ summary, result = .ok summary → summary.errors = 0
  /-- A check succeeds if there is nothing wrong with anything, and only then. -/
  clean : request.command = .check →
    ((∃ summary, result = .ok summary) ↔
      workers.assemble = .ok () ∧ fault = none ∧
        ∃ sources, Source.ofArguments request.files request.expr = .ok sources ∧
          ∀ source ∈ sources, ∃ text, source.content files input = .ok text ∧
            (Findings.ofText text).diagnostics = [])

theorem judged_rejected {failure : Failure} (workers : Workers)
    (rejected : Source.ofArguments request.files request.expr = .error failure) :
    request.Judged workers files input room fault (.error failure) [] := by
  obtain ⟨why, rfl⟩ := Source.ofArguments_error rejected
  constructor
  case rejected =>
    intro other same
    rw [rejected] at same
    cases same
    exact ⟨⟨why, rfl⟩, rfl, rfl⟩
  case clean =>
    intro _
    constructor
    · rintro ⟨summary, ended⟩
      cases ended
    · rintro ⟨-, -, sources, accepted, -⟩
      rw [rejected] at accepted
      cases accepted
  all_goals simp [rejected]

theorem judged_unassembled {failure : Failure}
    (accepted : Source.ofArguments request.files request.expr = .ok sources)
    (unassembled : workers.assemble = .error failure) :
    request.Judged workers files input room fault (.error failure) [] := by
  obtain ⟨why, idle, rfl⟩ := Workers.assemble_error unassembled
  constructor
  case unassembled =>
    intro _ other _ same
    rw [idle] at same
    cases same
    exact ⟨rfl, rfl⟩
  all_goals simp [accepted, unassembled]

/-- The verdict on a run that has lost no source is the same with all sources counted. -/
theorem verdict_census (command : Command) (write : Option Failure) (sources : List Source) :
    let census := Source.census files input sources
    verdict (command.ranking (census.mishaps write fault)) census =
      verdict (command.ranking (census.mishaps write fault))
        ⟨sources.length, 0, census.tokens, census.errors⟩ := by
  intro census
  by_cases lost : 0 < Source.lost files input sources
  · have failed : (census.mishaps write fault).inputs =
        some (.execution (.inputsFailed (Source.lost files input sources))) := if_pos lost
    apply verdict_of_mem
    rw [← failed]
    exact command.inputs_mem_ranking _
  · have all := Source.length_readable files input sources
    congr 1
    simp [census, Source.census]
    omega

theorem judged_assembled (accepted : Source.ofArguments request.files request.expr = .ok sources)
    (assembled : workers.assemble = .ok ()) :
    let bytes := Text.utf8 (request.command.transcript (several sources)
      (Source.readable files input sources))
    let census := Source.census files input sources
    request.Judged workers files input room fault
      (verdict (request.command.ranking
        (census.mishaps (request.command.overflow room bytes.length) fault)) census)
      (Sink.filled room fault bytes).written.toList := by
  intro bytes census
  constructor
  case rejected =>
    intro failure rejected
    rw [accepted] at rejected
    cases rejected
  case unassembled =>
    intro _ why _ idle
    rw [Workers.start_of_assemble assembled] at idle
    cases idle
  case ranked =>
    intro others same _
    rw [accepted] at same
    cases same
    rw [← several_eq]
    exact verdict_census fault files input request.command _ sources
  case counted =>
    intro checks n ended
    rw [checks] at ended
    obtain ⟨fits, lost, rfl⟩ := Command.check_errorTokens ended
    have all := Diagnostic.length_ofTexts files input sources
    have written := Sink.written_filled fault (Command.overflow_eq_none.1 fits)
    simp only [bytes, checks, Command.transcript] at written ⊢
    refine ⟨sources, accepted, lost, all, written, ?_⟩
    intro named
    rw [written, Text.count_feed_utf8, ← all]
    apply Diagnostic.count_feed_reports
    intro source text listed
    exact named source (Source.mem_readable.1 listed).1
  case faultless =>
    intro checks summary ended
    rw [checks, Command.check_ok] at ended
    obtain ⟨-, -, -, none_wrong, rfl⟩ := ended
    simpa [Summary.mishaps] using none_wrong
  case clean =>
    intro checks
    rw [checks]
    simp only [Command.check_ok]
    constructor
    · rintro ⟨summary, -, kept, flushed, none_wrong, -⟩
      refine ⟨assembled, by simpa [Summary.mishaps] using flushed, sources, accepted, ?_⟩
      exact Source.census_clean.1
        ⟨by simpa [Summary.mishaps] using kept, by simpa [Summary.mishaps] using none_wrong⟩
    · rintro ⟨-, rfl, others, same, fine⟩
      rw [accepted] at same
      cases same
      obtain ⟨kept, none_wrong⟩ := Source.census_clean.2 fine
      have silent : bytes = [] := by
        have no_lines := List.eq_nil_of_length_eq_zero
          ((Diagnostic.length_ofTexts files input sources).trans none_wrong)
        simp only [bytes, checks, Command.transcript, no_lines]
        rfl
      refine ⟨census, ?_, by simp [Summary.mishaps, census, kept], rfl,
        by simp [Summary.mishaps, census, none_wrong], rfl⟩
      rw [silent]
      exact Command.overflow_eq_none.2 fun n _ => Nat.zero_le n

/-- Every run ends by the first thing that goes wrong in it, in the order of its command. -/
theorem first_mishap_decides (request : Request) (workers : Workers) (files : Files)
    (input : Bytes) (room : Option Nat) (fault : Option IoFault) :
    let run := (request.runWith workers files input).run (Journal.ofSink (.limited room fault))
    request.Judged workers files input room fault run.1 run.2.sink.written.toList := by
  cases arguments : Source.ofArguments request.files request.expr with
  | error failure =>
    rw [runWith_rejected arguments workers files input]
    exact judged_rejected room fault files input workers arguments
  | ok sources => cases assembled : workers.assemble with
    | error failure =>
      rw [runWith_unassembled arguments assembled files input]
      exact judged_unassembled room fault files input arguments assembled
    | ok _ =>
      obtain ⟨result, holds⟩ := run_limited room fault files input arguments assembled
      simp only [result, holds]
      exact judged_assembled room fault files input arguments assembled

/-- A check finds an open string, on a sink that has room for the line about it and no more. With no
workers it does not look for any. -/
theorem first_mishap_decides_check :
    let request : Request := ⟨.check, ["-"], none, false⟩
    let input := Text.utf8 "a 'b".toList
    let line := Text.utf8 "<stdin>:1:3: string error ''b'\n".toList
    let run workers := (request.runWith workers [] input).run
      (Journal.ofSink (.limited (some 31) none))
    (run ⟨2, fun _ => .ok ()⟩).1 = .error (.execution (.errorTokens 1)) ∧
      (run ⟨2, fun _ => .ok ()⟩).2.sink.written.toList = line ∧ line.count 10 = 1 ∧
      (run ⟨2, fun _ => .error "busy"⟩).1 = .error (.execution (.noWorkers "busy")) ∧
      (run ⟨2, fun _ => .error "busy"⟩).2.sink.written.toList = [] := by
  intro request input line run
  have accepted : Source.ofArguments request.files request.expr = .ok [.stdin] := rfl
  have held : Source.content [] input .stdin = .ok "a 'b".toList := Source.content_stdin [] _
  have texts : Source.readable [] input [.stdin] = [(.stdin, "a 'b".toList)] := by
    simp [Source.readable, held, Except.toOption]
  have lost : Source.lost [] input [.stdin] = 0 := by
    simp [Source.lost, held, Except.toBool]
  have judged := first_mishap_decides request ⟨2, fun _ => .ok ()⟩ [] input (some 31) none
  have idle := first_mishap_decides request ⟨2, fun _ => .error "busy"⟩ [] input (some 31) none
  have ended : (run ⟨2, fun _ => .ok ()⟩).1 = .error (.execution (.errorTokens 1)) := by
    refine (judged.ranked _ accepted rfl).trans ?_
    rw [texts, lost]
    decide +kernel
  obtain ⟨sources, same, -, -, written, -⟩ := judged.counted rfl 1 ended
  rw [accepted] at same
  cases same
  rw [texts] at written
  obtain ⟨stopped, nothing⟩ := idle.unassembled _ "busy" accepted rfl
  refine ⟨ended, written.trans ?_, ?_, stopped, nothing⟩
  · decide +kernel
  · decide +kernel

end Request

end QueryInk

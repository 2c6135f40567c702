import QueryInk.Proofs.Run.Transcript

namespace QueryInk

/-- What can go wrong in a run: for each thing the failure it makes, if it comes about. -/
structure Mishaps where
  write : Option Failure
  flush : Option Failure
  inputs : Option Failure
  tokens : Option Failure

/-- What goes wrong in a run that comes to this summary. -/
def Summary.mishaps (summary : Summary) (write : Option Failure) (fault : Option IoFault) :
    Mishaps where
  write := write
  flush := fault.map .io
  inputs :=
    if 0 < summary.failed then some (.execution (.inputsFailed summary.failed)) else none
  tokens :=
    if 0 < summary.errors then some (.execution (.errorTokens summary.errors)) else none

/-- The first failure there is, or else success. -/
def verdict (ranking : List (Option Failure)) (summary : Summary) : Except Failure Summary :=
  match ranking.findSome? id with
  | some failure => .error failure
  | none => .ok summary

theorem verdict_nil (summary : Summary) : verdict [] summary = .ok summary := rfl

theorem verdict_cons_ok {first : Option Failure} {ranking : List (Option Failure)}
    {summary result : Summary} :
    verdict (first :: ranking) summary = .ok result ↔
      first = none ∧ verdict ranking summary = .ok result := by
  cases first with
  | none => exact (and_iff_right rfl).symm
  | some failure => simp [verdict]

theorem verdict_cons_error {first : Option Failure} {ranking : List (Option Failure)}
    {summary : Summary} {failure : Failure} :
    verdict (first :: ranking) summary = .error failure ↔
      first = some failure ∨ first = none ∧ verdict ranking summary = .error failure := by
  cases first with
  | none => simp [verdict]
  | some other => simp [verdict]

/-- The summary of a run that fails is not seen. -/
theorem verdict_of_mem {ranking : List (Option Failure)} {failure : Failure}
    (failed : some failure ∈ ranking) (one other : Summary) :
    verdict ranking one = verdict ranking other := by
  unfold verdict
  cases first : ranking.findSome? id with
  | some _ => rfl
  | none => cases List.findSome?_eq_none_iff.1 first _ failed

namespace Command

/-- What decides the result of a command, each before all that follow. -/
def ranking : Command → Mishaps → List (Option Failure)
  | check, m => [m.write, m.inputs, m.flush, m.tokens]
  | highlight .., m => [m.write, m.inputs, m.flush]
  | tokens .json, m => [m.write, m.flush, m.inputs]
  | tokens .text, m => [m.flush, m.write, m.inputs]

theorem inputs_mem_ranking (command : Command) (m : Mishaps) :
    m.inputs ∈ command.ranking m := by
  cases command with
  | check => simp [ranking]
  | highlight => simp [ranking]
  | tokens format => cases format <;> simp [ranking]

/-- What comes of writing so many bytes where there is room for so many, or for any number. The last
byte of a dump is the line feed after the array, and no longer part of it. -/
def overflow (command : Command) (room : Option Nat) (size : Nat) : Option Failure :=
  room.bind fun n =>
    if size ≤ n then none
    else some (if command.dumpsJson ∧ n < size - 1 then .json .sinkFull else .io .sinkFull)

theorem overflow_eq_none {command : Command} {room : Option Nat} {size : Nat} :
    command.overflow room size = none ↔ ∀ n ∈ room, size ≤ n := by
  cases room with
  | none => simp [overflow]
  | some n => simp [overflow]

theorem overflow_plain {command : Command} {room : Option Nat} {size : Nat} {failure : Failure}
    (plain : command.dumpsJson = false) (short : command.overflow room size = some failure) :
    failure = .io .sinkFull := by
  obtain ⟨n, -, short⟩ := Option.bind_eq_some_iff.1 short
  split at short
  · cases short
  · simp only [plain, Bool.false_eq_true, false_and, if_false, Option.some.injEq] at short
    exact short.symm

end Command

/-! ## Sinks with so much room -/

namespace Sink

/-- A sink with room for so many bytes, or for any number of them, whose flush may fail. -/
def limited (room : Option Nat) (fault : Option IoFault) : Sink :=
  ⟨#[], room.elim .endless .bounded, fault⟩

/-- A limited sink after bytes were written to it, as far as it had room. -/
def filled (room : Option Nat) (fault : Option IoFault) (bytes : Bytes) : Sink :=
  match room with
  | none => ⟨bytes.toArray, .endless, fault⟩
  | some n => ⟨(bytes.take n).toArray, .bounded (n - bytes.length), fault⟩

/-- What the flush of a sink comes to that is to fail with this fault. -/
def flushed (fault : Option IoFault) : Except IoFault Unit := fault.elim (.ok ()) .error

theorem flush_filled (room : Option Nat) (fault : Option IoFault) (bytes : Bytes) :
    (filled room fault bytes).flush = flushed fault := by
  cases room <;> cases fault <;> rfl

theorem written_filled {room : Option Nat} {bytes : Bytes} (fault : Option IoFault)
    (fits : ∀ n ∈ room, bytes.length ≤ n) : (filled room fault bytes).written.toList = bytes := by
  cases room with
  | none => rfl
  | some n => exact List.take_of_length_le (fits n rfl)

variable (room : Option Nat) (fault : Option IoFault)

theorem writeAll_limited (command : Command) (chunks : List Bytes) :
    (limited room fault).writeAll chunks =
      ((command.overflow room chunks.flatten.length).elim (.ok ()) fun _ => .error .sinkFull,
        filled room fault chunks.flatten) := by
  cases room with
  | none => simpa [limited, filled, Command.overflow] using writeAll_endless fault #[] chunks
  | some n =>
    have taken := writeAll_bounded fault #[] n chunks
    generalize chunks.flatten = bytes at taken ⊢
    by_cases fits : bytes.length ≤ n <;>
      simpa [limited, filled, Command.overflow, fits] using taken

theorem dump_limited (array : Bytes) :
    (limited room fault).dump array =
      (((Command.tokens .json).overflow room (array ++ [lineFeed]).length).elim (.ok ()) .error,
        filled room fault (array ++ [lineFeed])) := by
  cases room with
  | none => simpa [limited, filled, Command.overflow] using dump_endless fault #[] array
  | some n =>
    have taken := dump_bounded fault #[] n array
    have within : (array ++ [lineFeed]).length - 1 = array.length := by simp
    generalize array ++ [lineFeed] = bytes at taken within ⊢
    by_cases fits : bytes.length ≤ n <;>
      simpa [limited, filled, Command.overflow, Command.dumpsJson, within, fits] using taken

end Sink

/-! ## Closing -/

namespace Command

/-- A walk that a write has cut short, or else its outcome. -/
def walkedTo (write : Option Failure) (summary : Summary) : Except Failure Summary :=
  write.elim (Progress.mk summary none).outcome .error

/-- A walk to its end fails only by inputs that could not be read. -/
theorem walkedTo_end (summary : Summary) (write : Option Failure) (fault : Option IoFault) :
    walkedTo none summary = verdict [(summary.mishaps write fault).inputs] summary := by
  by_cases lost : 0 < summary.failed <;>
    simp [walkedTo, Progress.outcome, Summary.mishaps, verdict, lost]

theorem settle_check (summary : Summary) (write : Option Failure) (fault : Option IoFault) :
    check.settle (.ok summary) = verdict [(summary.mishaps write fault).tokens] summary := by
  by_cases bad : 0 < summary.errors <;> simp [settle, Summary.mishaps, verdict, bad]

theorem closing_ranked {command : Command} (plain : command.dumpsJson = false)
    (write : Option Failure) (fault : Option IoFault) (summary : Summary) :
    command.closing (walkedTo write summary) (Sink.flushed fault) =
      verdict (command.ranking (summary.mishaps write fault)) summary := by
  cases command with
  | check =>
    cases write with
    | some failure => rfl
    | none =>
      rw [walkedTo_end summary none fault, ranking]
      cases (summary.mishaps none fault).inputs with
      | some failure => rfl
      | none =>
        cases fault with
        | some fault => rfl
        | none => exact settle_check summary none none
  | highlight theme color =>
    cases write with
    | some failure => rfl
    | none =>
      rw [walkedTo_end summary none fault, ranking]
      cases (summary.mishaps none fault).inputs with
      | some failure => rfl
      | none => cases fault <;> rfl
  | tokens format =>
    cases format with
    | json => cases plain
    | text =>
      cases fault with
      | some fault => rfl
      | none =>
        cases write with
        | some failure => rfl
        | none => exact walkedTo_end summary none none

theorem closing_dumped (fault : Option IoFault) (summary : Summary) :
    (tokens .json).closing (walkedTo none summary) (Sink.flushed fault) =
      verdict ((tokens .json).ranking (summary.mishaps none fault)) summary := by
  cases fault with
  | some fault => rfl
  | none => exact walkedTo_end summary none none

end Command

/-! ## Runs -/

namespace Request

variable {request : Request} (sources : List Source) (results : List (Except Failure Output))
  (room : Option Nat) (fault : Option IoFault)

theorem shows_plain (plain : request.command.dumpsJson = false) :
    let bytes := (Outcomes.chunks (sources.zip results)).flatten
    let summary := Outcomes.total (sources.zip results) .empty
    request.Shows sources results (.limited room fault)
      (verdict (request.command.ranking
        (summary.mishaps (request.command.overflow room bytes.length) fault)) summary)
      (Sink.filled room fault bytes).written.toList := by
  intro bytes summary
  have taken := Sink.writeAll_limited room fault request.command
    (Outcomes.chunks (sources.zip results))
  have flush := Sink.flush_filled room fault bytes
  rw [← Command.closing_ranked plain]
  cases short : request.command.overflow room bytes.length with
  | none =>
    rw [short] at taken
    exact shows_written plain taken flush rfl
  | some failure =>
    rw [short] at taken
    obtain rfl := Command.overflow_plain plain short
    exact shows_stopped plain taken flush rfl

theorem shows_json (json : request.command = .tokens .json)
    (silent : Outcomes.chunks (sources.zip results) = []) :
    let bytes := Text.utf8 (Record.dumpJson (Outcomes.records (sources.zip results))) ++
      [Sink.lineFeed]
    let summary := Outcomes.total (sources.zip results) .empty
    request.Shows sources results (.limited room fault)
      (verdict (request.command.ranking
        (summary.mishaps (request.command.overflow room bytes.length) fault)) summary)
      (Sink.filled room fault bytes).written.toList := by
  intro bytes summary
  have taken := Sink.dump_limited room fault
    (Text.utf8 (Record.dumpJson (Outcomes.records (sources.zip results))))
  have flush := Sink.flush_filled room fault bytes
  rw [json]
  cases short : (Command.tokens .json).overflow room bytes.length with
  | none =>
    rw [short] at taken
    rw [← Command.closing_dumped, ← json]
    exact shows_dumped json silent taken flush rfl
  | some failure =>
    rw [short] at taken
    exact shows_undumped json silent taken rfl

variable {sources} {workers : Workers} (files : Files) (input : Bytes)

/-- What a limited sink shows of a run: the transcript as far as there is room, and the verdict on
what went wrong. -/
theorem run_limited (accepted : Source.ofArguments request.files request.expr = .ok sources)
    (assembled : workers.assemble = .ok ()) :
    let bytes := Text.utf8 (request.command.transcript (several sources)
      (Source.readable files input sources))
    let summary := Source.census files input sources
    let run := (request.runWith workers files input).run (Journal.ofSink (.limited room fault))
    run.1 = verdict (request.command.ranking
        (summary.mishaps (request.command.overflow room bytes.length) fault)) summary ∧
      run.2.sink.written.toList = (Sink.filled room fault bytes).written.toList := by
  intro bytes summary
  rw [runWith_assembled accepted assembled]
  cases dumps : request.command.dumpsJson with
  | false =>
    have shown := shows_plain sources (request.results files input sources) room fault dumps
    rw [chunks_transcript dumps accepted, total_results accepted] at shown
    obtain ⟨journal, ran, holds⟩ := shown
    rw [ran]
    exact ⟨rfl, holds⟩
  | true =>
    have json := Command.eq_of_dumpsJson dumps
    have shown := shows_json sources (request.results files input sources) room fault json
      (chunks_json json accepted files input)
    rw [dump_transcript json accepted, total_results accepted] at shown
    obtain ⟨journal, ran, holds⟩ := shown
    rw [ran]
    exact ⟨rfl, holds⟩

end Request

end QueryInk

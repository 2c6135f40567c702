import QueryInk.Proofs.Run.Walk

namespace QueryInk

namespace Sink

theorem appendList_assoc (written : Array UInt8) (first second : Bytes) :
    written ++ first ++ second = written ++ (first ++ second) := by
  apply Array.toList_inj.1
  simp

variable (fault : Option IoFault)

theorem writeAll_endless (written : Array UInt8) (chunks : List Bytes) :
    writeAll ⟨written, .endless, fault⟩ chunks =
      (.ok (), ⟨written ++ chunks.flatten, .endless, fault⟩) := by
  induction chunks generalizing written with
  | nil => simp [writeAll]
  | cons bytes chunks ih =>
    simp only [writeAll, write]
    rw [ih, appendList_assoc, List.flatten_cons]

/-- Whatever the chunks, the sink takes of all of them what it has room for. -/
theorem writeAll_bounded (written : Array UInt8) (room : Nat) (chunks : List Bytes) :
    writeAll ⟨written, .bounded room, fault⟩ chunks =
      (if chunks.flatten.length ≤ room then .ok () else .error .sinkFull,
        ⟨written ++ chunks.flatten.take room, .bounded (room - chunks.flatten.length), fault⟩) := by
  induction chunks generalizing written room with
  | nil => simp [writeAll]
  | cons bytes chunks ih =>
    simp only [writeAll, write, List.flatten_cons, List.length_append, List.take_append]
    by_cases fits : bytes.length ≤ room
    · have rest : chunks.flatten.length ≤ room - bytes.length ↔
          bytes.length + chunks.flatten.length ≤ room := by omega
      rw [if_pos fits]
      dsimp only
      rw [ih, appendList_assoc, Nat.sub_sub]
      simp only [rest]
    · -- the sink is full now, and nothing more is written to it
      have full : ¬ bytes.length + chunks.flatten.length ≤ room := by omega
      have none_left : room - bytes.length = 0 := by omega
      have none_later : room - (bytes.length + chunks.flatten.length) = 0 := by omega
      rw [if_neg fits, if_neg full, none_left, none_later]
      simp

theorem dump_endless (written : Array UInt8) (array : Bytes) :
    dump ⟨written, .endless, fault⟩ array =
      (.ok (), ⟨written ++ (array ++ [lineFeed]), .endless, fault⟩) := by
  simp only [dump, write]
  rw [appendList_assoc]

theorem dump_bounded (written : Array UInt8) (room : Nat) (array : Bytes) :
    dump ⟨written, .bounded room, fault⟩ array =
      (if (array ++ [lineFeed]).length ≤ room then .ok ()
        else .error (if room < array.length then .json .sinkFull else .io .sinkFull),
        ⟨written ++ (array ++ [lineFeed]).take room,
          .bounded (room - (array ++ [lineFeed]).length), fault⟩) := by
  simp only [dump, write, List.length_append, List.length_singleton, List.take_append]
  by_cases within : array.length ≤ room
  · rw [if_pos within]
    dsimp only
    by_cases all : 1 ≤ room - array.length
    · rw [if_pos all, if_pos (by omega), appendList_assoc, Nat.sub_sub]
    · rw [if_neg all, if_neg (by omega), if_neg (by omega), appendList_assoc, Nat.sub_sub]
  · have none_left : room - array.length = 0 := by omega
    have none_later : room - (array.length + 1) = 0 := by omega
    rw [if_neg within, if_neg (by omega), if_pos (by omega), none_left, none_later]
    simp

end Sink

namespace Request

variable {request : Request} {sources : List Source} {results : List (Except Failure Output)}
  {sink last : Sink} {fault : IoFault} {flushed : Except IoFault Unit} {bytes : Bytes}

/-! ## What is seen of a run -/

/-- The run on the sink ends with `outcome` and leaves `bytes` there. -/
def Shows (request : Request) (sources : List Source) (results : List (Except Failure Output))
    (sink : Sink) (outcome : Except Failure Summary) (bytes : Bytes) : Prop :=
  ∃ journal, (request.reportOn sources results).run (Journal.ofSink sink) = (outcome, journal) ∧
    journal.sink.written.toList = bytes

theorem shows_of_concluded {outcome : Except Failure Summary} {after : Journal}
    (concluded : (request.command.conclude (Summary.report Journal.emit Journal.noteFailure
      (sources.zip results))).run (.ofSink sink) = (outcome, after))
    (holds : after.sink.written.toList = bytes) :
    request.Shows sources results sink outcome bytes := by
  obtain ⟨log, ran⟩ := run_reportOn concluded
  exact ⟨_, ran, holds⟩

theorem shows_written (plain : request.command.dumpsJson = false)
    (taken : sink.writeAll (Outcomes.chunks (sources.zip results)) = (.ok (), last))
    (flush : last.flush = flushed) (holds : last.written.toList = bytes) :
    request.Shows sources results sink (request.command.closing
      (Progress.mk (Outcomes.total (sources.zip results) .empty) none).outcome flushed) bytes := by
  have walk := Summary.report_written (sources.zip results) (.ofSink sink) taken
  rw [← flush]
  exact shows_of_concluded (Command.conclude_plain plain walk) holds

theorem shows_stopped (plain : request.command.dumpsJson = false)
    (refused : sink.writeAll (Outcomes.chunks (sources.zip results)) = (.error fault, last))
    (flush : last.flush = flushed) (holds : last.written.toList = bytes) :
    request.Shows sources results sink
      (request.command.closing (.error (.io fault)) flushed) bytes := by
  obtain ⟨log, held, walk⟩ := Summary.report_stopped (sources.zip results) (.ofSink sink) refused
  rw [← flush]
  exact shows_of_concluded (Command.conclude_plain plain walk) holds

theorem writeAll_silent (silent : Outcomes.chunks (sources.zip results) = []) :
    sink.writeAll (Outcomes.chunks (sources.zip results)) = (.ok (), sink) := by
  rw [silent]
  rfl

section Json

variable (json : request.command = .tokens .json)
  (silent : Outcomes.chunks (sources.zip results) = [])
include json silent

theorem shows_dumped (taken : sink.dump (Text.utf8 (Record.dumpJson
      (Outcomes.records (sources.zip results)))) = (.ok (), last))
    (flush : last.flush = flushed) (holds : last.written.toList = bytes) :
    request.Shows sources results sink (request.command.closing
      (Progress.mk (Outcomes.total (sources.zip results) .empty) none).outcome flushed) bytes := by
  have walk := Summary.report_written (sources.zip results) (.ofSink sink) (writeAll_silent silent)
  have concluded := Command.conclude_json walk taken
  rw [← json, flush] at concluded
  exact shows_of_concluded concluded holds

theorem shows_undumped {failure : Failure} (refused : sink.dump (Text.utf8 (Record.dumpJson
      (Outcomes.records (sources.zip results)))) = (.error failure, last))
    (holds : last.written.toList = bytes) :
    request.Shows sources results sink (.error failure) bytes := by
  have walk := Summary.report_written (sources.zip results) (.ofSink sink) (writeAll_silent silent)
  have concluded := Command.conclude_undumped walk refused
  rw [← json] at concluded
  exact shows_of_concluded concluded holds

end Json

/-! ## The two sinks -/

/-- What both sinks show of a run that writes `bytes` and, with room for them, ends with `outcome`;
`cause` is how the run fails at the first byte that the bounded sink has no room for. -/
structure Fills (request : Request) (sources : List Source) (results : List (Except Failure Output))
    (room : Nat) (bytes : Bytes) (outcome : Except Failure Summary) (cause : Failure) : Prop where
  full : request.Shows sources results .endless outcome bytes
  cut : request.Shows sources results (.bounded room)
    (if bytes.length ≤ room then outcome else .error cause) (bytes.take room)

theorem fills_plain (plain : request.command.dumpsJson = false) (room : Nat) :
    request.Fills sources results room (Outcomes.chunks (sources.zip results)).flatten
      (request.command.settle
        (Progress.mk (Outcomes.total (sources.zip results) .empty) none).outcome)
      (.io .sinkFull) where
  full := by
    have taken := Sink.writeAll_endless none #[] (Outcomes.chunks (sources.zip results))
    rw [← Command.closing_flushed]
    exact shows_written plain taken rfl (by simp)
  cut := by
    have taken := Sink.writeAll_bounded none #[] room (Outcomes.chunks (sources.zip results))
    split
    · next fits =>
      rw [if_pos fits] at taken
      rw [← Command.closing_flushed]
      exact shows_written plain taken rfl (by simp)
    · next short =>
      rw [if_neg short] at taken
      have ended : request.command.closing (.error (.io .sinkFull)) (.ok ()) =
          .error (.io .sinkFull) := by
        cases request.command <;> rfl
      rw [← ended]
      exact shows_stopped plain taken rfl (by simp)

theorem fills_json (json : request.command = .tokens .json)
    (silent : Outcomes.chunks (sources.zip results) = []) (room : Nat) :
    let array := Text.utf8 (Record.dumpJson (Outcomes.records (sources.zip results)))
    request.Fills sources results room (array ++ [Sink.lineFeed])
      (Progress.mk (Outcomes.total (sources.zip results) .empty) none).outcome
      (if room < array.length then .json .sinkFull else .io .sinkFull) := by
  intro array
  have closed (outcome : Except Failure Summary) :
      request.command.closing outcome (.ok ()) = outcome := by
    rw [json]
    rfl
  constructor
  · rw [← closed (Progress.outcome _)]
    exact shows_dumped json silent (Sink.dump_endless none #[] array) rfl (by simp)
  · have taken := Sink.dump_bounded none #[] room array
    split
    · next fits =>
      rw [if_pos fits] at taken
      rw [← closed (Progress.outcome _)]
      exact shows_dumped json silent taken rfl (by simp)
    · next short =>
      rw [if_neg short] at taken
      exact shows_undumped json silent taken (by simp)

/-- The sources of a JSON dump write nothing during the walk. -/
theorem chunks_json (json : request.command = .tokens .json)
    (accepted : Source.ofArguments request.files request.expr = .ok sources) (files : Files)
    (input : Bytes) :
    Outcomes.chunks (sources.zip (request.results files input sources)) = [] := by
  rw [Outcomes.chunks, outputs_eq accepted, List.flatMap_eq_nil_iff]
  intro output member
  obtain ⟨source, -, found⟩ := List.mem_filterMap.1 member
  obtain ⟨text, -, rfl⟩ := Option.map_eq_some_iff.1 found
  rw [json]
  rfl

theorem Fills.seen {room : Nat} {outcome : Except Failure Summary} {cause : Failure}
    (fills : request.Fills sources results room bytes outcome cause) :
    let full := (request.reportOn sources results).run (Journal.ofSink .endless)
    let cut := (request.reportOn sources results).run (Journal.ofSink (.bounded room))
    full.2.sink.written.toList = bytes ∧ cut.2.sink.written.toList = bytes.take room ∧
      cut.1 = if bytes.length ≤ room then full.1 else .error cause := by
  obtain ⟨⟨whole, ran, holds⟩, ⟨part, ran', holds'⟩⟩ := fills
  simp only [ran, ran']
  exact ⟨holds, holds', trivial⟩

/-- A sink with room for `room` bytes gets the first `room` bytes of the output, in all runs. With
room for all of it the run ends as it does on an endless sink. Without, it fails because of the
sink, in a JSON dump with a failure of its own unless only the last line feed is missing. -/
theorem bounded_output (request : Request) (workers : Workers) (files : Files) (input : Bytes)
    (room : Nat) :
    let full := (request.runWith workers files input).run (Journal.ofSink .endless)
    let cut := (request.runWith workers files input).run (Journal.ofSink (.bounded room))
    let bytes := full.2.sink.written.toList
    cut.2.sink.written.toList = bytes.take room ∧
      cut.1 =
        if bytes.length ≤ room then full.1
        else .error (if request.command.dumpsJson ∧ room < bytes.length - 1 then .json .sinkFull
          else .io .sinkFull) := by
  rcases runWith_cases request workers files input with ⟨failure, ran⟩ | ⟨sources, accepted, ran⟩
  · rw [ran]
    exact ⟨List.take_nil.symm, (if_pos (Nat.zero_le room)).symm⟩
  · rw [ran]
    cases dumps : request.command.dumpsJson with
    | false =>
      have fills : request.Fills sources (request.results files input sources) room _ _ _ :=
        fills_plain dumps room
      obtain ⟨whole, part, ending⟩ := fills.seen
      simp only [whole]
      refine ⟨part, ?_⟩
      simpa using ending
    | true =>
      have json := Command.eq_of_dumpsJson dumps
      obtain ⟨whole, part, ending⟩ :=
        (fills_json json (chunks_json json accepted files input) room).seen
      simp only [whole]
      refine ⟨part, ?_⟩
      simpa using ending

end Request

end QueryInk

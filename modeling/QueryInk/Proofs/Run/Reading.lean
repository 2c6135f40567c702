import Mathlib.Data.List.Count
import QueryInk.Run.Command

namespace QueryInk

namespace Source

/-- What a source holds, the standard input while it is untouched. -/
def content (files : Files) (input : Bytes) (source : Source) : Except Failure Text :=
  ((source.read files).run input).1

/-- Only the standard input looks at what is left of it, or takes of it. -/
theorem read_of_ne {source : Source} (other : source ≠ stdin) (files : Files)
    (input left : Bytes) : (source.read files).run left = (source.content files input, left) := by
  cases source with
  | file path => rfl
  | stdin => contradiction
  | expr text => rfl

theorem readAll_cons (files : Files) (source : Source) (rest : List Source) (left : Bytes) :
    (readAll files (source :: rest)).run left =
      (((source.read files).run left).1 ::
          ((readAll files rest).run ((source.read files).run left).2).1,
        ((readAll files rest).run ((source.read files).run left).2).2) := by
  simp only [readAll, List.mapM_cons]
  rfl

theorem readAll_of_notMem {sources : List Source} (absent : stdin ∉ sources) (files : Files)
    (input left : Bytes) :
    (readAll files sources).run left = (sources.map (content files input), left) := by
  induction sources with
  | nil => rfl
  | cons source rest ih =>
    rw [List.mem_cons, not_or] at absent
    obtain ⟨other, absent⟩ := absent
    rw [readAll_cons, read_of_ne (Ne.symm other) files input, ih absent, List.map_cons]

/-- Sources of which at most one is the standard input each read as if alone. -/
theorem readAll_eq {sources : List Source} (once : sources.count stdin ≤ 1) (files : Files)
    (input : Bytes) :
    ((readAll files sources).run input).1 = sources.map (content files input) := by
  induction sources with
  | nil => rfl
  | cons source rest ih =>
    rw [readAll_cons, List.map_cons]
    by_cases here : source = stdin
    · subst here
      rw [List.count_cons_self] at once
      have absent : stdin ∉ rest := List.count_eq_zero.1 (by omega)
      rw [readAll_of_notMem absent files input]
      rfl
    · rw [List.count_cons_of_ne here] at once
      rw [read_of_ne here files input, ih once]

theorem ofPath_eq_stdin {path : String} : ofPath path = stdin ↔ path = stdinPath := by
  unfold ofPath
  split <;> simp_all

/-- Arguments that are accepted name the standard input once at most. -/
theorem count_stdin_le {paths : List String} {expr : Option Text} {sources : List Source}
    (accepted : ofArguments paths expr = .ok sources) : sources.count stdin ≤ 1 := by
  cases expr with
  | some text =>
    cases accepted
    simp
  | none =>
    simp only [ofArguments] at accepted
    split at accepted
    · cases accepted
    split at accepted
    · cases accepted
    · next once =>
      cases accepted
      have same : (paths.map ofPath).count stdin = paths.count stdinPath := by
        rw [List.count, List.countP_map]
        apply List.countP_congr
        intro path _
        simp [ofPath_eq_stdin]
      omega

end Source

namespace Request

/-- What the command makes of each source, read from left to right. -/
def results (request : Request) (files : Files) (input : Bytes) (sources : List Source) :
    List (Except Failure Output) :=
  (sources.zip ((Source.readAll files sources).run input).1).map fun (source, text) =>
    text.map (request.command.output (several sources) source)

/-- What a run does with the results, one for each source. -/
def reportOn (request : Request) (sources : List Source) (results : List (Except Failure Output)) :
    Work Journal Summary := do
  let summary ← request.command.conclude
    (Summary.report Journal.emit Journal.noteFailure (sources.zip results))
  if request.verbose then Journal.note (.finished request.command.finishedEvent summary)
  return summary

variable {request : Request} {sources : List Source} {workers : Workers}

theorem runWith_rejected {failure : Failure}
    (rejected : Source.ofArguments request.files request.expr = .error failure)
    (workers : Workers) (files : Files) (input : Bytes) :
    request.runWith workers files input = throw failure := by
  rw [runWith, rejected]
  rfl

/-- Nothing is read or written by a run that has no workers. -/
theorem runWith_unassembled {failure : Failure}
    (accepted : Source.ofArguments request.files request.expr = .ok sources)
    (unassembled : workers.assemble = .error failure) (files : Files) (input : Bytes) :
    request.runWith workers files input = throw failure := by
  rw [runWith, accepted, unassembled]
  rfl

theorem zip_texts (accepted : Source.ofArguments request.files request.expr = .ok sources)
    (files : Files) (input : Bytes) :
    sources.zip ((Source.readAll files sources).run input).1 =
      sources.map fun source => (source, source.content files input) := by
  rw [Source.readAll_eq (Source.count_stdin_le accepted), List.map_prod_left_eq_zip]

theorem results_eq (accepted : Source.ofArguments request.files request.expr = .ok sources)
    (files : Files) (input : Bytes) :
    request.results files input sources = sources.map fun source =>
      (source.content files input).map (request.command.output (several sources) source) := by
  rw [results, zip_texts accepted, List.map_map]
  rfl

/-- What workers there are, and how many, is not seen in what a run does. -/
theorem runWith_assembled (accepted : Source.ofArguments request.files request.expr = .ok sources)
    (assembled : workers.assemble = .ok ()) (files : Files) (input : Bytes) :
    request.runWith workers files input =
      request.reportOn sources (request.results files input sources) := by
  have found : liftExcept (Except.ok sources : Except Failure (List Source)) =
      (pure sources : Work Journal (List Source)) := rfl
  have started : liftExcept (Except.ok () : Except Failure Unit) =
      (pure () : Work Journal Unit) := rfl
  rw [runWith, accepted, assembled, found, pure_bind, started, pure_bind, reportOn,
    results_eq accepted]
  dsimp only
  rw [zip_texts accepted, ← List.map_prod_left_eq_zip, List.map_map]
  rfl

/-- A run fails before it has done anything, or it is a report on its sources. -/
theorem runWith_cases (request : Request) (workers : Workers) (files : Files) (input : Bytes) :
    (∃ failure, request.runWith workers files input = throw failure) ∨
      ∃ sources, Source.ofArguments request.files request.expr = .ok sources ∧
        request.runWith workers files input =
          request.reportOn sources (request.results files input sources) := by
  cases accepted : Source.ofArguments request.files request.expr with
  | error failure => exact .inl ⟨failure, runWith_rejected accepted workers files input⟩
  | ok sources => cases assembled : workers.assemble with
    | error failure => exact .inl ⟨failure, runWith_unassembled accepted assembled files input⟩
    | ok _ => exact .inr ⟨sources, rfl, runWith_assembled accepted assembled files input⟩

end Request

end QueryInk

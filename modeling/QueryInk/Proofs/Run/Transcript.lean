import Mathlib.Algebra.Ring.Nat
import QueryInk.Proofs.Run.Dump
import QueryInk.Proofs.Run.Layout

namespace QueryInk

namespace Source

/-- The standard input holds the text whose bytes it is given. -/
theorem content_stdin (files : Files) (text : Text) :
    stdin.content files (Text.utf8 text) = .ok text := by
  simp [content, read, StateT.run, Text.ofUtf8?_utf8]

/-- The sources that can be read, each with its text. -/
def readable (files : Files) (input : Bytes) (sources : List Source) : List (Source × Text) :=
  sources.filterMap fun source => (source.content files input).toOption.map (source, ·)

/-- How many of the sources cannot be read. -/
def lost (files : Files) (input : Bytes) (sources : List Source) : Nat :=
  sources.countP fun source => !(source.content files input).toBool

theorem length_readable (files : Files) (input : Bytes) (sources : List Source) :
    (readable files input sources).length + lost files input sources = sources.length := by
  rw [readable, lost, List.length_filterMap_eq_countP,
    List.length_eq_countP_add_countP fun source => (source.content files input).toBool]
  congr 2
  · funext source
    cases source.content files input <;> rfl
  · funext source
    cases source.content files input <;> rfl

theorem mem_readable {files : Files} {input : Bytes} {sources : List Source} {source : Source}
    {text : Text} :
    (source, text) ∈ readable files input sources ↔
      source ∈ sources ∧ source.content files input = .ok text := by
  simp only [readable, List.mem_filterMap, Option.map_eq_some_iff, Prod.mk.injEq]
  constructor
  · rintro ⟨other, member, _, found, rfl, rfl⟩
    refine ⟨member, ?_⟩
    cases held : other.content files input with
    | error failure => rw [held] at found; cases found
    | ok text => rw [held] at found; exact congrArg _ (Option.some.inj found)
  · rintro ⟨member, found⟩
    exact ⟨source, member, text, by rw [found]; rfl, rfl, rfl⟩

theorem lost_eq_zero {files : Files} {input : Bytes} {sources : List Source} :
    lost files input sources = 0 ↔
      ∀ source ∈ sources, ∃ text, source.content files input = .ok text := by
  rw [lost, List.countP_eq_zero]
  refine forall₂_congr fun source _ => ?_
  cases source.content files input <;> simp [Except.toBool]

/-- What there is to count in the sources. -/
def census (files : Files) (input : Bytes) (sources : List Source) : Summary :=
  let texts := readable files input sources
  { processed := texts.length
    failed := lost files input sources
    tokens := (texts.map fun (_, text) => (Findings.ofText text).tokens).sum
    errors := (texts.map fun (_, text) => (Findings.ofText text).diagnostics.length).sum }

/-- There is nothing wrong with the sources iff each of them can be read and has no diagnostics. -/
theorem census_clean {files : Files} {input : Bytes} {sources : List Source} :
    (census files input sources).failed = 0 ∧ (census files input sources).errors = 0 ↔
      ∀ source ∈ sources, ∃ text, source.content files input = .ok text ∧
        (Findings.ofText text).diagnostics = [] := by
  constructor
  · rintro ⟨kept, none_wrong⟩ source member
    obtain ⟨text, found⟩ := lost_eq_zero.1 kept source member
    refine ⟨text, found, ?_⟩
    have listed := mem_readable.2 ⟨member, found⟩
    exact List.eq_nil_of_length_eq_zero
      (List.sum_eq_zero_iff_forall_eq_nat.1 none_wrong _ (List.mem_map_of_mem listed))
  · intro fine
    constructor
    · apply lost_eq_zero.2
      intro source member
      obtain ⟨text, found, -⟩ := fine source member
      exact ⟨text, found⟩
    · apply List.sum_eq_zero_iff_forall_eq_nat.2
      intro n counted
      obtain ⟨⟨source, text⟩, listed, rfl⟩ := List.mem_map.1 counted
      obtain ⟨member, found⟩ := mem_readable.1 listed
      obtain ⟨other, found', none_wrong⟩ := fine source member
      rw [found] at found'
      cases found'
      exact congrArg List.length none_wrong

end Source

namespace Diagnostic

/-- What is wrong with texts, each from its source. -/
def ofTexts (texts : List (Source × Text)) : List (Source × Diagnostic) :=
  texts.flatMap fun (source, text) => (Findings.ofText text).diagnostics.map (source, ·)

/-- The lines about diagnostics. -/
def reports (found : List (Source × Diagnostic)) : Text :=
  found.flatMap fun (source, d) => (d.report source.label).toList

theorem length_ofTexts (files : Files) (input : Bytes) (sources : List Source) :
    (ofTexts (Source.readable files input sources)).length =
      (Source.census files input sources).errors := by
  simp [Source.census, ofTexts, List.length_flatMap]

theorem reports_ofTexts (texts : List (Source × Text)) :
    reports (ofTexts texts) = texts.flatMap fun (source, text) =>
      (Findings.ofText text).diagnostics.flatMap (Command.diagnosticLine source) := by
  simp only [reports, ofTexts, List.flatMap_assoc, List.flatMap_map, toList_report]

/-- There are as many lines as there are diagnostics. -/
theorem count_feed_reports {texts : List (Source × Text)}
    (named : ∀ source text, (source, text) ∈ texts → '\n' ∉ source.label.toList) :
    (reports (ofTexts texts)).count '\n' = (ofTexts texts).length := by
  rw [reports, List.count_flatMap, List.map_congr_left (g := fun _ => 1)]
  · simp
  · rintro ⟨source, d⟩ listed
    obtain ⟨⟨_, text⟩, given, member⟩ := List.mem_flatMap.1 listed
    obtain ⟨_, found, here⟩ := List.mem_map.1 member
    cases here
    obtain ⟨line, eq, unended⟩ := report_line (named source text given) found
    simp [eq, List.count_eq_zero.2 unended]

end Diagnostic

namespace Command

/-- What a command writes about texts, each from its source. -/
def transcript (command : Command) (several : Bool) (texts : List (Source × Text)) : Text :=
  match command with
  | check => Diagnostic.reports (Diagnostic.ofTexts texts)
  | highlight theme color => texts.flatMap fun (_, text) =>
    (Highlight.render theme color text).text
  | tokens .text => texts.flatMap fun (source, text) =>
    (Record.ofText source.label text).flatMap fun r => (r.report several).toList
  | tokens .json => Record.dumpJson (texts.flatMap fun (source, text) =>
    Record.ofText source.label text) ++ ['\n']

theorem transcript_plain {command : Command} (plain : command.dumpsJson = false) (several : Bool)
    (texts : List (Source × Text)) :
    command.transcript several texts =
      texts.flatMap fun (source, text) => (command.output several source text).chunks.flatten := by
  cases command with
  | check => exact Diagnostic.reports_ofTexts texts
  | highlight theme color => simp [transcript, output]
  | tokens format =>
    cases format with
    | text =>
      simp only [transcript, Record.toList_report, Source.label_eq]
      rfl
    | json => cases plain

/-- Whatever the command, its counts are those of a check. -/
theorem counts_findings (command : Command) (several : Bool) (source : Source) (text : Text) :
    (command.output several source text).counts =
      ⟨(Findings.ofText text).tokens, (Findings.ofText text).diagnostics.length⟩ := by
  rw [counts_eq, ← counts_eq check several source text]
  rfl

end Command

/-! ## What the walk comes to -/

theorem Text.utf8_flatten (ts : List Text) : utf8 ts.flatten = (ts.map utf8).flatten := by
  induction ts with
  | nil => rfl
  | cons t ts ih => rw [List.flatten_cons, utf8_append, ih, List.map_cons, List.flatten_cons]

namespace Outcomes

theorem chunks_flatten (outcomes : Outcomes) :
    outcomes.chunks.flatten = Text.utf8 (outcomes.outputs.flatMap (·.chunks.flatten)) := by
  rw [chunks]
  induction outcomes.outputs with
  | nil => rfl
  | cons output rest ih =>
    rw [List.flatMap_cons, List.flatten_append, ih, List.flatMap_cons, Text.utf8_append,
      Text.utf8_flatten]

/-- A summary counts the outputs and the failures, and adds up the counts of the outputs. -/
theorem total_eq (outcomes : Outcomes) (s : Summary) :
    outcomes.total s =
      { processed := s.processed + outcomes.outputs.length
        failed := s.failed + outcomes.failures.length
        tokens := s.tokens + (outcomes.outputs.map (·.counts.tokens)).sum
        errors := s.errors + (outcomes.outputs.map (·.counts.errors)).sum } := by
  induction outcomes generalizing s with
  | nil => rfl
  | cons outcome rest ih =>
    obtain ⟨source, failure | output⟩ := outcome
    · rw [total_error, ih, failures_error]
      simp [Summary.withFailure, outputs, Except.toOption]
      omega
    · rw [total_ok, ih, failures_ok]
      simp [Summary.withInput, outputs, Except.toOption]
      omega

end Outcomes

namespace Request

variable {request : Request} {sources : List Source}

theorem outputs_readable (accepted : Source.ofArguments request.files request.expr = .ok sources)
    (files : Files) (input : Bytes) :
    Outcomes.outputs (sources.zip (request.results files input sources)) =
      (Source.readable files input sources).map fun (source, text) =>
        request.command.output (several sources) source text := by
  rw [outputs_eq accepted, Source.readable, List.map_filterMap]
  congr 1
  funext source
  rw [Option.map_map]
  rfl

theorem length_failures (accepted : Source.ofArguments request.files request.expr = .ok sources)
    (files : Files) (input : Bytes) :
    (Outcomes.failures (sources.zip (request.results files input sources))).length =
      Source.lost files input sources := by
  rw [results_eq accepted, ← List.map_prod_left_eq_zip, Outcomes.failures, List.filterMap_map,
    List.length_filterMap_eq_countP, Source.lost]
  congr 1
  funext source
  cases found : source.content files input <;> simp [found, Except.map, Except.toBool]

theorem chunks_transcript (plain : request.command.dumpsJson = false)
    (accepted : Source.ofArguments request.files request.expr = .ok sources) (files : Files)
    (input : Bytes) :
    (Outcomes.chunks (sources.zip (request.results files input sources))).flatten =
      Text.utf8 (request.command.transcript (several sources)
        (Source.readable files input sources)) := by
  rw [Outcomes.chunks_flatten, outputs_readable accepted, Command.transcript_plain plain,
    List.flatMap_map]

theorem dump_transcript (json : request.command = .tokens .json)
    (accepted : Source.ofArguments request.files request.expr = .ok sources) (files : Files)
    (input : Bytes) :
    Text.utf8 (Record.dumpJson
        (Outcomes.records (sources.zip (request.results files input sources)))) ++
        [Sink.lineFeed] =
      Text.utf8 (request.command.transcript (several sources)
        (Source.readable files input sources)) := by
  rw [Outcomes.records, outputs_readable accepted, List.flatMap_map, json, Command.transcript,
    Text.utf8_append]
  simp only [Source.label_eq]
  rfl

theorem total_results (accepted : Source.ofArguments request.files request.expr = .ok sources)
    (files : Files) (input : Bytes) :
    Outcomes.total (sources.zip (request.results files input sources)) .empty =
      Source.census files input sources := by
  rw [Outcomes.total_eq, outputs_readable accepted, length_failures accepted, Source.census]
  simp [Summary.empty, Function.comp_def, Command.counts_findings]

theorem several_eq (sources : List Source) : several sources = decide (1 < sources.length) := by
  rcases sources with _ | ⟨_, _ | ⟨_, _⟩⟩ <;> simp [several]

end Request

end QueryInk

import QueryInk.Diagnostic
import QueryInk.Highlight
import QueryInk.Record
import QueryInk.Run.Summary
import QueryInk.Sink

/-!
# Commands

A run keeps a journal: what it has written, what it has logged, and the records it
holds back for a JSON dump, which is written as one array at the end.
-/

namespace QueryInk

inductive Format where
  | text
  | json
  deriving DecidableEq, Repr

inductive Command where
  | check
  | highlight (theme : Theme) (color : Bool)
  | tokens (format : Format)

structure Request where
  command : Command
  files : List String
  expr : Option Text
  verbose : Bool

/-- What is said about the run itself. -/
inductive LogEntry where
  | inputFailed (source : String) (failure : Failure)
  | finished (event : String) (summary : Summary)
  deriving DecidableEq, Repr

namespace LogEntry

def display : LogEntry → String
  | inputFailed source failure => s!"ERROR {failure.message} source={source}"
  | finished event summary =>
    s!"INFO {event} inputs={summary.processed} tokens={summary.tokens}"

end LogEntry

structure Journal where
  sink : Sink
  log : Array LogEntry
  held : List Record

/-- What a command makes of an input: text to write at once, records to hold, and the counts. -/
structure Output where
  chunks : List Text
  records : List Record
  counts : Counts
  deriving DecidableEq, Repr

namespace Journal

def ofSink (sink : Sink) : Journal := ⟨sink, #[], []⟩

/-- Writes text; `because` makes a failure of what stopped the sink. -/
def write (because : IoFault → Failure) (text : Text) : Work Journal Unit := fun journal =>
  match journal.sink.write (Text.utf8 text) with
  | (.ok (), sink) => (.ok (), { journal with sink })
  | (.error fault, sink) => (.error (because fault), { journal with sink })

def flush : Work Journal Unit := fun journal => (journal.sink.flush.mapError .io, journal)

def note (entry : LogEntry) : StateM Journal Unit :=
  modify fun journal => { journal with log := journal.log.push entry }

def noteFailure (source : Source) (failure : Failure) : StateM Journal Unit :=
  note (.inputFailed source.name failure)

def emit (_ : Source) (output : Output) : Work Journal Counts := do
  output.chunks.forM (write .io)
  modify fun journal => { journal with held := journal.held ++ output.records }
  return output.counts

end Journal

namespace Command

def endLine (t : Text) : Text := t ++ ['\n']

/-- A diagnostic with the source in front. -/
def diagnosticLine (source : Source) (d : Diagnostic) : Text :=
  endLine (source.name.toList ++ ':' :: d.display)

/-- The name of the source is shown with each record iff there are several sources. -/
def output (command : Command) (several : Bool) (source : Source) (text : Text) : Output :=
  match command with
  | check =>
    let findings := Findings.ofText text
    ⟨findings.diagnostics.map (diagnosticLine source), [],
      ⟨findings.tokens, findings.diagnostics.length⟩⟩
  | highlight theme color =>
    let rendered := Highlight.render theme color text
    ⟨[rendered.text], [], ⟨rendered.tokens, rendered.errors⟩⟩
  | tokens format =>
    let records := Record.ofText source.name text
    let counts := ⟨records.length, (Record.errors records).length⟩
    match format with
    | .text => ⟨records.map fun r => endLine (r.display several), [], counts⟩
    | .json => ⟨[], records, counts⟩

/-- What the log says of a run that went well. -/
def finishedEvent : Command → String
  | check => "no error tokens found"
  | highlight .. => "highlight finished"
  | tokens _ => "tokens finished"

/-- Writes the records held back. -/
def dumpHeld : Work Journal Unit := do
  Journal.write .json (Record.dumpJson (← get).held)
  Journal.write .io ['\n']

/-- What follows the walk through the inputs. A dump is completed and flushed even when an
input failed; the other commands stop there. -/
def conclude (command : Command) (walked : Work Journal Summary) : Work Journal Summary :=
  match command with
  | check => do
    let summary ← walked
    Journal.flush
    if 0 < summary.errors then throw (.execution (.errorTokens summary.errors))
    return summary
  | highlight .. => do
    let summary ← walked
    Journal.flush
    return summary
  | tokens format => do
    let outcome ← ExceptT.lift walked.run
    if format = .json then dumpHeld
    Journal.flush
    liftExcept outcome

end Command

/-- The workers of a run: how many are asked for, and what comes of starting a number of them. -/
structure Workers where
  asked : Nat
  start : Nat → Except String Unit

namespace Workers

/-- Where any number of workers can be started. -/
def ready : Workers := ⟨1, fun _ => .ok ()⟩

/-- Starts the workers, one at least. -/
def assemble (workers : Workers) : Except Failure Unit :=
  (workers.start (max 1 workers.asked)).mapError fun why => .execution (.noWorkers why)

end Workers

namespace Request

def several : List Source → Bool
  | _ :: _ :: _ => true
  | _ => false

/-- Runs a request on what the files and the standard input hold, with workers to read them. -/
def runWith (request : Request) (workers : Workers) (files : Files) (stdin : Bytes) :
    Work Journal Summary := do
  let sources ← liftExcept (Source.ofArguments request.files request.expr)
  liftExcept workers.assemble
  let texts := ((Source.readAll files sources).run stdin).1
  let outcomes := (sources.zip texts).map fun (source, text) =>
    (source, text.map (request.command.output (several sources) source))
  let summary ← request.command.conclude
    (Summary.report Journal.emit Journal.noteFailure outcomes)
  if request.verbose then Journal.note (.finished request.command.finishedEvent summary)
  return summary

def run (request : Request) (files : Files) (stdin : Bytes) : Work Journal Summary :=
  request.runWith .ready files stdin

end Request

end QueryInk

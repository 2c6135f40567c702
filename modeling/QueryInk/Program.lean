import QueryInk.CommandLine.Invocation

namespace QueryInk

structure World where
  files : Files
  stdin : Bytes
  env : String → Option String

/-- What a run finds of the machine: its processors, and what comes of starting workers. -/
structure Machine where
  processors : Nat
  start : Nat → Except String Unit

/-- Why a run did not go well. -/
inductive Ending where
  | usage
  | failure (f : Failure)
  deriving DecidableEq, Repr

structure Exit where
  code : Nat
  stdout : Bytes
  log : List String
  ending : Option Ending
  deriving DecidableEq, Repr

namespace Program

open CommandLine

def version : String := "0.1.0"

def usage : String :=
  "Usage: jxt [-v] [-c FILE] [--no-color] (highlight | tokens [-F text|json] | check)" ++
  " [-j N] (-e EXPR | FILE...)\n"

/-- Writes a text that nobody waits for: a failure to write it is passed over. -/
def say (sink : Sink) (text : String) : Exit :=
  ⟨0, (sink.write (Text.utf8 text.toList)).2.written.toList, [], none⟩

def halt (sink : Sink) : Halt → Exit
  | .usage => ⟨2, [], [], some .usage⟩
  | .help _ => say sink usage
  | .version level => say sink s!"{level.name} {version}\n"

def failed (f : Failure) (stdout : Bytes) (log : List String) : Exit :=
  ⟨1, stdout, log, some (.failure f)⟩

/-- The levels at which nothing is logged, by name and by number. -/
def silentLevels : List String := ["off", "0"]

/-- Whether anything is logged. A verbose run always logs. -/
def logs (verbose : Bool) (env : String → Option String) : Bool :=
  verbose || !(env "RUST_LOG").any fun level => silentLevels.contains level.toLower

def command (i : Invocation) (settings : Settings) : Command :=
  match i.verb with
  | .highlight => .highlight settings.theme (!i.noColor && settings.color)
  | .tokens => .tokens (i.format.getD settings.format)
  | .check => .check

def request (i : Invocation) (settings : Settings) : Request :=
  ⟨command i settings, i.files, i.expr.map String.toList, i.verbose || settings.verbose⟩

/-- The command line says how many workers to ask for, or else the settings, or else there is one
for each processor. -/
def workers (i : Invocation) (settings : Settings) (machine : Machine) : Workers :=
  ⟨(i.jobs.or settings.jobs).getD (max 1 machine.processors), machine.start⟩

def execute (i : Invocation) (settings : Settings) (machine : Machine) (world : World)
    (sink : Sink) : Exit :=
  let request := request i settings
  let (result, journal) := (request.runWith (workers i settings machine) world.files
    world.stdin).run (Journal.ofSink sink)
  let stdout := journal.sink.written.toList
  let log := if logs request.verbose world.env then
    journal.log.toList.map LogEntry.display else []
  match result with
  | .ok _ => ⟨0, stdout, log, none⟩
  | .error f => failed f stdout log

def runOn (machine : Machine) (arguments : List String) (world : World) (sink : Sink) : Exit :=
  match Invocation.read arguments world.env with
  | .error stop => halt sink stop
  | .ok i => match Settings.find world.files world.env i.config with
    | .error f => failed f [] []
    | .ok settings => execute i settings machine world sink

/-- A run where workers can always be started. -/
def run (arguments : List String) (world : World) (sink : Sink) : Exit :=
  runOn ⟨1, Workers.ready.start⟩ arguments world sink

/-- The paths a run may look at. -/
def paths (arguments : List String) (env : String → Option String) : List String :=
  match Invocation.read arguments env with
  | .error _ => []
  | .ok i =>
    ((i.config.map ([·])).getD (Settings.candidates env) ++ i.files).flatMap Files.along

/-- Whether a run reads the standard input. -/
def readsStdin (arguments : List String) (env : String → Option String) : Bool :=
  match Invocation.read arguments env with
  | .error _ => false
  | .ok i => i.expr.isNone && i.files.contains Source.stdinPath

end Program

end QueryInk

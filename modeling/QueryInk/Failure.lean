import QueryInk.Text.Quoted

namespace QueryInk

/-- What the operating system answers when it cannot do something. -/
inductive OsFault where
  | notFound
  | notDirectory
  | isDirectory
  | noSpace
  | nameTooLong
  deriving DecidableEq, Repr

namespace OsFault

def code : OsFault → Nat
  | notFound => 2
  | notDirectory => 20
  | isDirectory => 21
  | noSpace => 28
  | nameTooLong => 36

def label : OsFault → String
  | notFound => "NotFound"
  | notDirectory => "NotADirectory"
  | isDirectory => "IsADirectory"
  | noSpace => "StorageFull"
  | nameTooLong => "InvalidFilename"

def text : OsFault → String
  | notFound => "No such file or directory"
  | notDirectory => "Not a directory"
  | isDirectory => "Is a directory"
  | noSpace => "No space left on device"
  | nameTooLong => "File name too long"

end OsFault

/-- Why a read, a write or a flush failed. -/
inductive IoFault where
  | os (fault : OsFault)
  | invalidUtf8
  /-- Something looked for is not there, and nothing more is known. -/
  | absent
  | sinkFull
  | flushFailed
  | stated (text : String)
  deriving DecidableEq, Repr

namespace IoFault

def message : IoFault → String
  | os fault => s!"{fault.text} (os error {fault.code})"
  | invalidUtf8 => "stream did not contain valid UTF-8"
  | absent => "entity not found"
  | sinkFull => "sink full"
  | flushFailed => "flush failed"
  | stated text => text

def inspect : IoFault → String
  | os fault =>
    s!"Os \x7b code: {fault.code}, kind: {fault.label}, message: {Text.quoted fault.text} \x7d"
  | invalidUtf8 =>
    s!"Error \x7b kind: InvalidData, message: {Text.quoted invalidUtf8.message} \x7d"
  | absent => "Kind(NotFound)"
  | fault => s!"Custom \x7b kind: Other, error: {Text.quoted fault.message} \x7d"

end IoFault

inductive ConfigFault where
  | missing (path : String)
  | malformed
  | noJobs
  | stated (text : String)
  deriving DecidableEq, Repr

inductive FileFault where
  | unreadable (path : String) (why : IoFault)
  | stated (text : String)
  deriving DecidableEq, Repr

inductive ArgumentFault where
  | noInputs
  | stdinTwice
  | stated (text : String)
  deriving DecidableEq, Repr

inductive ExecutionFault where
  | noWorkers (why : String)
  | inputsFailed (count : Nat)
  | errorTokens (count : Nat)
  | stated (text : String)
  deriving DecidableEq, Repr

def ConfigFault.message : ConfigFault → String
  | missing path => "Configuration file not found: " ++ path
  | malformed => "Failed to parse configuration"
  | noJobs => "jobs must be at least 1"
  | stated text => text

def FileFault.message : FileFault → String
  | unreadable path why => path ++ ": " ++ why.message
  | stated text => text

def ArgumentFault.message : ArgumentFault → String
  | noInputs => "No input files or expression specified"
  | stdinTwice => "Standard input ('-') may only be given once"
  | stated text => text

def ExecutionFault.message : ExecutionFault → String
  | noWorkers why => "Failed to start worker pool: " ++ why
  | inputsFailed count => s!"{count} input(s) failed to process"
  | errorTokens count => s!"{count} error token(s) found"
  | stated text => text

/-- Why something failed. `message` is what a user reads; `inspect` is the form in which a run that
ends with it shows it. -/
inductive Failure where
  | config (why : ConfigFault)
  | file (why : FileFault)
  | argument (why : ArgumentFault)
  | execution (why : ExecutionFault)
  | io (why : IoFault)
  /-- A JSON dump could not be written. -/
  | json (why : IoFault)
  deriving DecidableEq, Repr

namespace Failure

def message : Failure → String
  | config why => "Configuration error: " ++ why.message
  | file why => "File operation failed: " ++ why.message
  | argument why => "Validation error: " ++ why.message
  | execution why => "Command execution failed: " ++ why.message
  | io why => "IO error: " ++ why.message
  | json why => "JSON error: " ++ why.message

def inspect : Failure → String
  | config why => s!"Config({Text.quoted why.message})"
  | file why => s!"FileOperation({Text.quoted why.message})"
  | argument why => s!"Validation({Text.quoted why.message})"
  | execution why => s!"CommandExecution({Text.quoted why.message})"
  | io why => s!"Io({why.inspect})"
  | json why => s!"Json(Error({Text.quoted why.message}, line: 0, column: 0))"

end Failure

end QueryInk

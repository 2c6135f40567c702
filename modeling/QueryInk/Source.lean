import QueryInk.Files

namespace QueryInk

inductive Source where
  | file (path : String)
  | stdin
  | expr (text : Text)
  deriving DecidableEq, Repr

namespace Source

/-- The path that stands for the standard input. -/
def stdinPath : String := "-"

def ofPath (path : String) : Source := if path = stdinPath then stdin else file path

/-- The sources that arguments name. An expression takes the place of all files. -/
def ofArguments (files : List String) : Option Text → Except Failure (List Source)
  | some text => .ok [expr text]
  | none =>
    if files.isEmpty then .error (.argument .noInputs)
    else if 1 < files.count stdinPath then .error (.argument .stdinTwice)
    else .ok (files.map ofPath)

/-- How reports name the source. -/
def name : Source → String
  | file path => path
  | stdin => "<stdin>"
  | expr _ => "<expr>"

/-- Reads a source. The state is what is left of the standard input. -/
def read (files : Files) : Source → StateM Bytes (Except Failure Text)
  | file path => pure ((files.read path).mapError fun why => .file (.unreadable path why))
  | stdin => fun bytes =>
    match Text.ofUtf8? bytes with
    | some text => (.ok text, [])
    | none => (.error (.io .invalidUtf8), [])
  | expr text => pure (.ok text)

/-- Reads all sources from left to right. -/
def readAll (files : Files) (sources : List Source) : StateM Bytes (List (Except Failure Text)) :=
  sources.mapM (read files)

end Source

end QueryInk

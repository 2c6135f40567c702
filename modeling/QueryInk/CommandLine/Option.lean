import QueryInk.Settings

namespace QueryInk.CommandLine

inductive Verb where
  | highlight
  | tokens
  | check
  deriving DecidableEq, Repr

namespace Verb

def all : List Verb := [highlight, tokens, check]

def name : Verb → String
  | highlight => "highlight"
  | tokens => "tokens"
  | check => "check"

def ofName? (name : String) : Option Verb := all.find? (·.name == name)

end Verb

inductive Opt where
  | verbose
  | config
  | noColor
  | help
  | version
  | expr
  | jobs
  | format
  deriving DecidableEq, Repr

namespace Opt

def long : Opt → String
  | verbose => "verbose"
  | config => "config"
  | noColor => "no-color"
  | help => "help"
  | version => "version"
  | expr => "expr"
  | jobs => "jobs"
  | format => "format"

def short? : Opt → Option Char
  | verbose => some 'v'
  | config => some 'c'
  | noColor => none
  | help => some 'h'
  | version => some 'V'
  | expr => some 'e'
  | jobs => some 'j'
  | format => some 'F'

def takesValue : Opt → Bool
  | config | expr | jobs | format => true
  | _ => false

end Opt

/-- Where an option stands: before the verb, or after it. -/
inductive Level where
  | program
  | verb (v : Verb)
  deriving DecidableEq, Repr

namespace Level

def everywhere : List Opt := [.verbose, .config, .noColor, .help, .version]

def options : Level → List Opt
  | program => everywhere
  | verb .tokens => everywhere ++ [.expr, .jobs, .format]
  | verb _ => everywhere ++ [.expr, .jobs]

/-- The name under which the level reports its version. -/
def name : Level → String
  | program => "jxt"
  | verb v => "jxt-" ++ v.name

end Level

/-- Why the arguments lead to no run. -/
inductive Halt where
  | usage
  | help (level : Level)
  | version (level : Level)
  deriving DecidableEq, Repr

/-- What is given at one level. -/
structure Given where
  verbose : Bool
  config : Option String
  noColor : Bool
  expr : Option String
  jobs : Option Nat
  format : Option Format
  files : List String
  deriving DecidableEq, Repr

namespace Given

def empty : Given := ⟨false, none, false, none, none, none, []⟩

/-- The largest number of jobs. -/
def maxJobs : Nat := 0xFFFFFFFF

/-- A number of jobs in decimal digits, with or without a plus. -/
def jobs? (value : String) : Option Nat :=
  let digits := match value.toList with
    | '+' :: digits => digits
    | digits => digits
  if digits.isEmpty || !digits.all Char.isDigit then none
  else
    let n := Decimal.ofDigits digits
    if 1 ≤ n ∧ n ≤ maxJobs then some n else none

/-- Fills a slot that takes one value, and that value must be legible. -/
def fill {α : Type} (slot value : Option α) : Except Halt (Option α) :=
  match slot, value with
  | none, some v => .ok (some v)
  | _, _ => .error .usage

def raise (given : Bool) : Except Halt Bool := if given then .error .usage else .ok true

/-- A path is never empty. -/
def path? (value : String) : Option String := if value.isEmpty then none else some value

/-- Takes an option. Asking for help or the version ends the reading there. -/
def set (g : Given) (level : Level) (opt : Opt) (value : String) : Except Halt Given :=
  match opt with
  | .verbose => do return { g with verbose := ← raise g.verbose }
  | .noColor => do return { g with noColor := ← raise g.noColor }
  | .config => do return { g with config := ← fill g.config (path? value) }
  | .expr => do return { g with expr := ← fill g.expr (some value) }
  | .jobs => do return { g with jobs := ← fill g.jobs (jobs? value) }
  | .format => do return { g with format := ← fill g.format (Format.ofName? value) }
  | .help => .error (.help level)
  | .version => .error (.version level)

def addFile (g : Given) (path : String) : Except Halt Given :=
  match path? path with
  | some path => .ok { g with files := g.files ++ [path] }
  | none => .error .usage

end Given

end QueryInk.CommandLine

import QueryInk.CommandLine.Option

namespace QueryInk.CommandLine

/-- What is left to say of the arguments so far: an option waits for its value, or the options
have ended. -/
inductive Expecting where
  | anything
  | value (opt : Opt)
  | files
  deriving DecidableEq, Repr

structure Reading where
  given : Given
  expecting : Expecting
  deriving DecidableEq, Repr

namespace Reading

def start : Reading := ⟨Given.empty, .anything⟩

/-- Options after one dash. The first that takes a value takes all that follows it, less an
equals sign, or waits for the next argument. -/
def cluster (level : Level) (given : Given) : Text → Except Halt Reading
  | [] => .ok ⟨given, .anything⟩
  | c :: rest =>
    match level.options.find? (·.short? == some c) with
    | none => .error .usage
    | some opt =>
      if opt.takesValue then
        match rest with
        | [] => .ok ⟨given, .value opt⟩
        | '=' :: value => do return ⟨← given.set level opt (String.ofList value), .anything⟩
        | value => do return ⟨← given.set level opt (String.ofList value), .anything⟩
      else do cluster level (← given.set level opt "") rest

/-- An option after two dashes. Only an equals sign attaches a value to it. -/
def long (level : Level) (given : Given) (text : Text) : Except Halt Reading :=
  let name := String.ofList (text.takeWhile (· != '='))
  let attached := match text.dropWhile (· != '=') with
    | [] => none
    | _ :: value => some (String.ofList value)
  match level.options.find? (·.long == name) with
  | none => .error .usage
  | some opt =>
    match opt.takesValue, attached with
    | true, some value => do return ⟨← given.set level opt value, .anything⟩
    | true, none => .ok ⟨given, .value opt⟩
    | false, some _ => .error .usage
    | false, none => do return ⟨← given.set level opt "", .anything⟩

/-- How an argument reads where options are read. A dash alone is a word. -/
inductive Shape where
  | stop
  | long (text : Text)
  | cluster (text : Text)
  | word
  deriving DecidableEq, Repr

def Shape.of (argument : String) : Shape :=
  match argument.toList with
  | ['-'] => .word
  | ['-', '-'] => .stop
  | '-' :: '-' :: text => .long text
  | '-' :: text => .cluster text
  | _ => .word

/-- Takes an argument of a verb. -/
def step (level : Level) (r : Reading) (argument : String) : Except Halt Reading :=
  match r.expecting with
  | .value opt =>
    if Shape.of argument = .word then do return ⟨← r.given.set level opt argument, .anything⟩
    else .error .usage
  | .files => do return ⟨← r.given.addFile argument, .files⟩
  | .anything =>
    match Shape.of argument with
    | .stop => .ok { r with expecting := .files }
    | .long text => long level r.given text
    | .cluster text => cluster level r.given text
    | .word => do return ⟨← r.given.addFile argument, .anything⟩

/-- What has been given once no argument is left. -/
def finish (r : Reading) : Except Halt Given :=
  match r.expecting with
  | .value _ => .error .usage
  | _ => .ok r.given

end Reading

/-- The word that asks for help in the place of a verb. -/
def helpWord : String := "help"

/-- Whether there is help on what the words name: the program, a verb, or help itself. -/
def hasHelp : List String → Bool
  | [] => true
  | [topic] => topic == helpWord || (Verb.ofName? topic).isSome
  | _ => false

/-- Reads the options of the program up to the verb, and the verb. -/
def readProgram (r : Reading) : List String → Except Halt (Given × Verb × List String)
  | [] => .error .usage
  | argument :: rest =>
    match r.expecting, Reading.Shape.of argument with
    | .anything, .word =>
      if argument = helpWord then .error (if hasHelp rest then .help .program else .usage)
      else match Verb.ofName? argument with
        | some verb => .ok (r.given, verb, rest)
        | none => .error .usage
    | _, .stop => .error .usage
    | _, _ => do readProgram (← r.step .program argument) rest

def readVerb (verb : Verb) (arguments : List String) : Except Halt Given := do
  (← arguments.foldlM (Reading.step (.verb verb)) Reading.start).finish

structure Invocation where
  verb : Verb
  verbose : Bool
  noColor : Bool
  config : Option String
  files : List String
  expr : Option String
  jobs : Option Nat
  format : Option Format
  deriving DecidableEq, Repr

/-- What a variable of the environment says where an option is not given. It is not looked at
where the option is given. -/
def switch (given : Bool) : Option String → Except Halt Bool
  | none => .ok given
  | some value =>
    if given then .ok true
    else if value = "true" then .ok true
    else if value = "false" then .ok false
    else .error .usage

def fallbackPath (given : Option String) : Option String → Except Halt (Option String)
  | none => .ok given
  | some value =>
    if given.isSome then .ok given
    else match Given.path? value with
      | some path => .ok (some path)
      | none => .error .usage

/-- Reads a command line. An expression and files exclude each other. What is given after the
verb goes before what is given in front of it, and both before the environment. -/
def Invocation.read (arguments : List String) (env : String → Option String) :
    Except Halt Invocation := do
  let (outer, verb, rest) ← readProgram Reading.start arguments
  let inner ← readVerb verb rest
  let verbose ← switch inner.verbose (env "JXT_VERBOSE")
  let noColor ← switch inner.noColor (env "JXT_NO_COLOR")
  let innerConfig ← fallbackPath inner.config (env "JXT_CONFIG")
  if inner.expr.isSome && !inner.files.isEmpty then throw .usage
  let outerVerbose ← switch outer.verbose (env "JXT_VERBOSE")
  let outerNoColor ← switch outer.noColor (env "JXT_NO_COLOR")
  let outerConfig ← fallbackPath outer.config (env "JXT_CONFIG")
  return {
    verb, verbose := verbose || outerVerbose, noColor := noColor || outerNoColor
    config := inner.config <|> outer.config <|> innerConfig <|> outerConfig
    files := inner.files, expr := inner.expr, jobs := inner.jobs, format := inner.format }

end QueryInk.CommandLine

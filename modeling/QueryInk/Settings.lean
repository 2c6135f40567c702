import QueryInk.Files
import QueryInk.Run.Command
import QueryInk.Toml.Document

namespace QueryInk

structure Settings where
  verbose : Bool
  /-- How many inputs to work on at a time; as many as there are processors if not set. -/
  jobs : Option Nat
  color : Bool
  theme : Theme
  format : Format

namespace Format

def all : List Format := [text, json]

def name : Format → String
  | text => "text"
  | json => "json"

def ofName? (name : String) : Option Format := all.find? (·.name == name)

end Format

namespace Settings

open Toml (Node Members)

def default : Settings := ⟨false, none, true, Theme.default, .text⟩

/-! ## Reading values

A reader fails on a node of the wrong type. -/

def boolean? : Node → Option Bool
  | .boolean b => some b
  | _ => none

def count? : Node → Option Nat
  | .integer (.ofNat n) => some n
  | _ => none

def isEmpty : Node → Bool
  | .array items => items.isEmpty
  | .table _ members => members.isEmpty
  | .tables items => items.isEmpty
  | _ => false

/-- A choice among names: the name as a string, or as the only key of a table, with nothing in
it. -/
def choice? {α : Type} (ofName? : String → Option α) : Node → Option α
  | .text name => ofName? name
  | .table _ [(name, content)] => if isEmpty content then ofName? name else none
  | _ => none

/-- The fields of a section, by position and name. -/
abbrev Section := Nat → String → Option Node

/-- A date has no field that a section has. -/
def section? : Node → Option Section
  | .table _ members => some fun _ name => members.lookup name
  | .array items => some fun i _ => items[i]?
  | .tables items => some fun i _ => items[i]?.map (Node.table .header)
  | .moment => some fun _ _ => none
  | _ => none

/-- The value of a node that may be missing. -/
def orDefault {α : Type} (read : Node → Option α) (preset : α) : Option Node → Option α
  | none => some preset
  | some node => read node

def themeOf? (fields : Section) : Option Theme :=
  let color? (role : Role) : Option Color :=
    orDefault (choice? Color.ofName?) (Theme.default role)
      (fields (Role.all.idxOf role) role.name)
  if Role.all.all fun role => (color? role).isSome then
    some fun role => (color? role).getD (Theme.default role)
  else none

/-- The settings that the root table of a document gives. -/
def ofMembers? (members : Members) : Option Settings := do
  let within {α : Type} (name : String) (read : Section → Option α) (preset : α) : Option α :=
    orDefault (fun node => section? node >>= read) preset (members.lookup name)
  return {
    verbose := ← orDefault boolean? default.verbose (members.lookup "verbose")
    jobs := ← orDefault (fun node => (count? node).map some) default.jobs (members.lookup "jobs")
    color := ← within "highlight"
      (fun fields => orDefault boolean? default.color (fields 0 "color")) default.color
    theme := ← within "theme" themeOf? default.theme
    format := ← within "tokens"
      (fun fields => orDefault (choice? Format.ofName?) default.format (fields 0 "format"))
      default.format }

/-- The settings of a document. One that asks for no work at all is refused. -/
def ofText (text : Text) : Except ConfigFault Settings :=
  match Toml.parse? text >>= ofMembers? with
  | none => .error .malformed
  | some settings => if settings.jobs = some 0 then .error .noJobs else .ok settings

/-- Reads a settings file, which must be there. -/
def load (files : Files) (path : String) : Except Failure Settings := do
  if !files.exists? path then throw (.config (.missing path))
  let text ← (files.read path).mapError .io
  (ofText text).mapError .config

/-- The name of a settings file. -/
def fileName : String := "jxt.toml"

/-- Where to look for settings: the working directory, then below the home directory, then in the
directory for configuration. -/
def candidates (env : String → Option String) : List String :=
  let home := (env "HOME").filter (!·.isEmpty)
  let below := home.map (· ++ "/.config")
  let shared := ((env "XDG_CONFIG_HOME").filter (·.startsWith "/")) <|> below
  [fileName] ++ (below.toList ++ shared.toList).map (· ++ "/jxt/" ++ fileName)

/-- The settings at a path that was given, or of the first candidate that is there. -/
def find (files : Files) (env : String → Option String) :
    Option String → Except Failure Settings
  | some path => load files path
  | none => match (candidates env).find? files.exists? with
    | some path => load files path
    | none => .ok default

end Settings

end QueryInk

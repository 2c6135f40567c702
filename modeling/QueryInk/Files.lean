import QueryInk.Failure

namespace QueryInk

inductive FileEntry where
  | file (content : Bytes)
  | directory
  deriving DecidableEq, Repr

/-- Places below the working directory as lists of names. An absolute place starts with `/`, one
above the working directory with `..`. Of two entries for one place the first counts. -/
abbrev Files := List (List String × FileEntry)

namespace Files

/-- The steps of a path. Empty steps stay where they are, but a slash at the end is as good as a
last step `.`: it takes a directory to stay in. -/
def steps (path : String) : List String :=
  (if path.startsWith "/" then ["/"] else []) ++ (path.splitOn "/").filter (· != "") ++
    (if path.endsWith "/" then ["."] else [])

/-- The working directory, all that is above it and the root are always there. -/
def entry? (files : Files) (place : List String) : Option FileEntry :=
  if place = ["/"] ∨ place.all (· == "..") then some .directory
  else match files.lookup place with
    | some entry => some entry
    | none => if files.any fun (p, _) => place.isPrefixOf p then some .directory else none

/-- Where a step leads. Nothing is above the root, and what is above the working directory is
called `..` as often as it takes. -/
def enter (place : List String) (step : String) : List String :=
  if step = "." then place
  else if step = ".." then
    match place.getLast? with
    | none | some ".." => place ++ [step]
    | some "/" => place
    | some _ => place.dropLast
  else place ++ [step]

/-- The place a path leads to if all it passes through are directories. -/
def place (path : String) : List String := (steps path).foldl enter []

/-- A path and the paths of all it passes through. -/
def along (path : String) : List String :=
  let names := path.splitOn "/"
  ((List.range names.length).map fun i => "/".intercalate (names.take (i + 1))).filter
    (!·.isEmpty)

/-- Puts an entry in the place of a path, over what is there. -/
def put (files : Files) (path : String) (entry : FileEntry) : Files :=
  (place path, entry) :: files

/-- The longest name of a file, in bytes. -/
def maxName : Nat := 255

/-- The longest path, in bytes. -/
def maxPath : Nat := 4095

/-- Follows the steps from a place; each must lead out of a directory. -/
def walk (files : Files) (place : List String) : List String → Except OsFault FileEntry
  | [] => match files.entry? place with
    | some entry => .ok entry
    | none => .error .notFound
  | step :: rest => match files.entry? place with
    | some .directory =>
      if maxName < step.utf8ByteSize then .error .nameTooLong
      else walk files (enter place step) rest
    | some (.file _) => .error .notDirectory
    | none => .error .notFound

/-- What a path leads to. -/
def find (files : Files) (path : String) : Except OsFault FileEntry :=
  if path.isEmpty then .error .notFound
  else if maxPath < path.utf8ByteSize then .error .nameTooLong
  else files.walk [] (steps path)

def exists? (files : Files) (path : String) : Bool := (files.find path).toBool

/-- The text of a file. -/
def read (files : Files) (path : String) : Except IoFault Text :=
  match files.find path with
  | .error fault => .error (.os fault)
  | .ok .directory => .error (.os .isDirectory)
  | .ok (.file content) => match Text.ofUtf8? content with
    | some text => .ok text
    | none => .error .invalidUtf8

end Files

end QueryInk

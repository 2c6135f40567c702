import QueryInk.Toml.Scalar

namespace QueryInk.Toml

/-- How deep values may be nested, and how many names a dotted key may have. -/
def maxDepth : Nat := 79

/-! ## Statements -/

def skipComment : Text → Text
  | '#' :: t => t.dropWhile isPlain
  | t => t

/-- The line after this one, if no more than a comment is left of this one. -/
def endLine? (t : Text) : Option Text :=
  match skipComment (skipSpaces t) with
  | [] => some []
  | rest => newline? rest

/-- Skips spaces, and lines with no more than a comment left. -/
def skipTrivia : Nat → Text → Text
  | 0, t => t
  | fuel + 1, t =>
    match newline? (skipComment (skipSpaces t)) with
    | some rest => skipTrivia fuel rest
    | none => skipSpaces t

def isBareChar (c : Char) : Bool := c.isAlphanum || c == '_' || c == '-'

def name : Reader String := fun t =>
  match shortString t with
  | some (name, rest) => some (String.ofList name, rest)
  | none =>
    let bare := t.takeWhile isBareChar
    if bare.isEmpty then none else some (String.ofList bare, t.dropWhile isBareChar)

/-- Names with points between them, with spaces around each. -/
def names : Nat → Reader (List String)
  | 0, _ => none
  | fuel + 1, t => do
    let (first, t) ← name (skipSpaces t)
    match skipSpaces t with
    | '.' :: t => do
      let (more, t) ← names fuel t
      return (first :: more, t)
    | t => return ([first], t)

def key : Reader Key := fun t => do
  let (path, rest) ← names maxDepth t
  return (⟨path.dropLast, ← path.getLast?⟩, rest)

/-- A key, its value, and the spaces between them. -/
def pair (value : Reader Node) : Reader (Key × Node) := fun t => do
  let (key, t) ← key t
  let (value, t) ← value (skipSpaces (← expect? '=' t))
  return ((key, value), t)

/-- The rest of an array. A comma may follow the last item. -/
def items (value : Reader Node) : Nat → Reader (List Node)
  | 0, _ => none
  | fuel + 1, t =>
    match skipTrivia t.length t with
    | ']' :: t => some ([], t)
    | t => do
      let (item, t) ← value t
      match skipTrivia t.length t with
      | ',' :: t => do
        let (more, t) ← items value fuel t
        return (item :: more, t)
      | ']' :: t => return ([item], t)
      | _ => none

/-- The rest of an inline table that is not empty. No comma follows the last pair. -/
def pairs (value : Reader Node) : Nat → Reader (List (Key × Node))
  | 0, _ => none
  | fuel + 1, t => do
    let (first, t) ← pair value t
    match skipSpaces t with
    | ',' :: t => do
      let (more, t) ← pairs value fuel t
      return (first :: more, t)
    | '}' :: t => return ([first], t)
    | _ => none

def inlineTable (value : Reader Node) : Reader Node := fun t =>
  match skipSpaces t with
  | '}' :: t => some (.table .inline [], t)
  | t => do
    let (bindings, t) ← pairs value t.length t
    let members ← bindings.foldlM (fun members (key, value) => assign key value members) []
    return (.table .inline members, t)

/-- A value with at most `depth` arrays and tables around its innermost scalars. -/
def value : Nat → Reader Node
  | 0 => scalar
  | depth + 1 => fun t =>
    match t with
    | '[' :: t => (items (value depth) (t.length + 1) t).map fun (items, t) => (.array items, t)
    | '{' :: t => inlineTable (value depth) t
    | t => scalar t

inductive Statement where
  | bind (key : Key) (value : Node)
  | openTable (key : Key)
  | openElement (key : Key)

/-- The statement at the front of a text that is not blank, with its line end. -/
def statement : Reader Statement
  | '[' :: '[' :: t => do
    let (key, t) ← key t
    let t ← expect? ']' (← expect? ']' t)
    return (.openElement key, ← endLine? t)
  | '[' :: t => do
    let (key, t) ← key t
    return (.openTable key, ← endLine? (← expect? ']' t))
  | t => do
    let ((key, value), t) ← pair (value maxDepth) t
    return (.bind key value, ← endLine? t)

def statements : Nat → Text → Option (List Statement)
  | 0, _ => none
  | fuel + 1, t =>
    match skipTrivia t.length t with
    | [] => some []
    | '#' :: t => if (skipComment ('#' :: t)).isEmpty then some [] else none
    | t => do
      let (first, t) ← statement t
      return first :: (← statements fuel t)

/-! ## What the statements build -/

/-- Where the open table goes. -/
inductive Place where
  | root
  | table (key : Key)
  | element (key : Key)

/-- The tables that are complete, and the one that is open. -/
structure Builder where
  done : Members
  current : Members
  place : Place

namespace Builder

def start : Builder := ⟨[], [], .root⟩

/-- Puts the open table in its place. -/
def close (b : Builder) : Option Members :=
  match b.place with
  | .root => some b.current
  | .table key => do
    let put (_ : Origin) (members : Members) : Option (Members × Unit) := do
      return (← members.add? key.last (.table .header b.current), ())
    let (members, ()) ← descend .header put key.parents .header b.done
    return members
  | .element key => do
    let put (_ : Origin) (members : Members) : Option (Members × Unit) :=
      match members.lookup key.last with
      | none => some (members ++ [(key.last, .tables [b.current])], ())
      | some (.tables items) => some (members.replace key.last (.tables (items ++ [b.current])), ())
      | some _ => none
    let (members, ()) ← descend .header put key.parents .header b.done
    return members

/-- A table that was only passed through can be opened once; what it holds is kept. -/
def takeTable (name : String) (_ : Origin) (members : Members) : Option (Members × Members) :=
  match members.lookup name with
  | none => some (members, [])
  | some (.table .implied inner) => some (members.erase name, inner)
  | some _ => none

def checkElement (name : String) (_ : Origin) (members : Members) : Option (Members × Unit) :=
  match members.lookup name with
  | none => some (members, ())
  | some (.tables _) => some (members, ())
  | some _ => none

def step (b : Builder) : Statement → Option Builder
  | .bind key value => do
    return { b with current := ← assign key value b.current }
  | .openTable key => do
    let (done, current) ← descend .header (takeTable key.last) key.parents .header (← b.close)
    return ⟨done, current, .table key⟩
  | .openElement key => do
    let (done, ()) ← descend .header (checkElement key.last) key.parents .header (← b.close)
    return ⟨done, [], .element key⟩

end Builder

/-- A byte order mark at the start does not count. -/
def skipMark : Text → Text
  | '\uFEFF' :: t => t
  | t => t

/-- The members of the root table of a document. -/
def parse? (t : Text) : Option Members := do
  let t := skipMark t
  let statements ← statements (t.length + 1) t
  (← statements.foldlM Builder.step Builder.start).close

end QueryInk.Toml

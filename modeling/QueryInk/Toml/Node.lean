namespace QueryInk.Toml

/-- How a table came to be, which decides who may still add to it. -/
inductive Origin where
  /-- Written between braces. -/
  | inline
  /-- Named by a header. -/
  | header
  /-- Passed through by a header. -/
  | implied
  /-- Passed through by a dotted key. -/
  | dotted
  deriving DecidableEq, Repr

/-- The values of floats and of dates and times are not kept. -/
inductive Node where
  | text (value : String)
  | integer (value : Int)
  | float
  | boolean (value : Bool)
  | moment
  | array (items : List Node)
  | table (origin : Origin) (members : List (String × Node))
  /-- An array of tables, one for each header in double brackets. -/
  | tables (items : List (List (String × Node)))

abbrev Members := List (String × Node)

/-! Whether two nodes are the same is decided constructor by constructor. -/

mutual

def Node.same : Node → Node → Bool
  | .text a, .text b => a == b
  | .integer a, .integer b => a == b
  | .float, .float => true
  | .boolean a, .boolean b => a == b
  | .moment, .moment => true
  | .array a, .array b => sameItems a b
  | .table o a, .table p b => o == p && sameMembers a b
  | .tables a, .tables b => sameTables a b
  | _, _ => false

def sameItems : List Node → List Node → Bool
  | [], [] => true
  | a :: as, b :: bs => a.same b && sameItems as bs
  | _, _ => false

def sameMembers : Members → Members → Bool
  | [], [] => true
  | (m, a) :: as, (n, b) :: bs => m == n && a.same b && sameMembers as bs
  | _, _ => false

def sameTables : List Members → List Members → Bool
  | [], [] => true
  | a :: as, b :: bs => sameMembers a b && sameTables as bs
  | _, _ => false

end

mutual

theorem Node.same_iff : (a b : Node) → (a.same b = true ↔ a = b)
  | .text _, b | .integer _, b | .float, b | .boolean _, b | .moment, b => by
    cases b <;> simp [Node.same]
  | .array items, b => by cases b <;> simp [Node.same, sameItems_iff items]
  | .table _ members, b => by cases b <;> simp [Node.same, sameMembers_iff members]
  | .tables items, b => by cases b <;> simp [Node.same, sameTables_iff items]

theorem sameItems_iff : (as bs : List Node) → (sameItems as bs = true ↔ as = bs)
  | [], bs => by cases bs <;> simp [sameItems]
  | a :: as, bs => by cases bs <;> simp [sameItems, Node.same_iff a, sameItems_iff as]

theorem sameMembers_iff : (as bs : Members) → (sameMembers as bs = true ↔ as = bs)
  | [], bs => by cases bs <;> simp [sameMembers]
  | _ :: _, [] => by simp [sameMembers]
  | (_, a) :: as, (_, _) :: _ => by
    simp [sameMembers, Node.same_iff a, sameMembers_iff as]

theorem sameTables_iff : (as bs : List Members) → (sameTables as bs = true ↔ as = bs)
  | [], bs => by cases bs <;> simp [sameTables]
  | a :: as, bs => by cases bs <;> simp [sameTables, sameMembers_iff a, sameTables_iff as]

end

instance : DecidableEq Node := fun a b => decidable_of_iff _ (a.same_iff b)

/-- A dotted key: the tables it passes through and the name it ends in. -/
structure Key where
  parents : List String
  last : String
  deriving DecidableEq, Repr

namespace Members

def add? (name : String) (node : Node) (members : Members) : Option Members :=
  if members.any (·.1 == name) then none else some (members ++ [(name, node)])

def replace (name : String) (node : Node) (members : Members) : Members :=
  members.map fun (n, old) => if n == name then (n, node) else (n, old)

def erase (name : String) (members : Members) : Members := members.filter (·.1 != name)

end Members

/-- What makes a key lead into tables: a header or a dotted key. -/
inductive Route where
  | header
  | dotted
  deriving DecidableEq, Repr

namespace Route

/-- The origin of a table that the route has to make on its way. -/
def made : Route → Origin
  | header => .implied
  | dotted => .dotted

def enters : Route → Origin → Bool
  | _, .inline => false
  | dotted, .header => false
  | _, _ => true

end Route

/-- Follows a path of names, making tables where there are none, and changes the table it leads
to. Of an array of tables it enters the last. -/
def descend {α : Type} (route : Route) (change : Origin → Members → Option (Members × α)) :
    List String → Origin → Members → Option (Members × α)
  | [], origin, members => change origin members
  | name :: path, _, members =>
    match members.lookup name with
    | none => do
      let (inner, result) ← descend route change path route.made []
      return (members ++ [(name, .table route.made inner)], result)
    | some (.table origin inner) => do
      guard (route.enters origin)
      let (inner, result) ← descend route change path origin inner
      return (members.replace name (.table origin inner), result)
    | some (.tables items) => do
      let (inner, result) ← descend route change path .header (← items.getLast?)
      return (members.replace name (.tables (items.dropLast ++ [inner])), result)
    | some _ => none

/-- Binds a key. A dotted key adds only to tables that dotted keys have made. -/
def assign (key : Key) (value : Node) (members : Members) : Option Members := do
  let bind (origin : Origin) (inner : Members) : Option (Members × Unit) := do
    guard (key.parents.isEmpty || origin == .dotted)
    return (← inner.add? key.last value, ())
  let (members, ()) ← descend .dotted bind key.parents .header members
  return members

end QueryInk.Toml

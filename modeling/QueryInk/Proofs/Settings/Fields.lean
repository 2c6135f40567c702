import Mathlib.Data.List.Forall2
import QueryInk.Settings

/-!
# Settings, field by field

What is read off a document is exactly what reflects it: each field has the value
that the document gives to it, and its default where it gives none
(`ofMembers?_eq_some_iff`). No reader tells apart values that are `Alike` however
they are written down, so documents that agree at the keys that mean something have
the same settings (`ofMembers?_agree`).
-/

namespace QueryInk

namespace Toml

/-- The items of an array, also of one that headers in double brackets have made. -/
def Node.items? : Node → Option (List Node)
  | .array items => some items
  | .tables items => some (items.map (.table .header))
  | _ => none

def Node.isTable : Node → Bool
  | .table .. => true
  | _ => false

/-- The same value, written in two ways: tables and arrays may be inline or have headers, and a
table may name its members in any order. -/
inductive Alike : Node → Node → Prop
  | text (value : String) : Alike (.text value) (.text value)
  | integer (value : Int) : Alike (.integer value) (.integer value)
  | float : Alike .float .float
  | boolean (value : Bool) : Alike (.boolean value) (.boolean value)
  | moment : Alike .moment .moment
  | array {a b : Node} {xs ys : List Node} (left : a.items? = some xs) (right : b.items? = some ys)
      (each : List.Forall₂ Alike xs ys) : Alike a b
  | table {origin origin' : Origin} {members ordered members' : Members}
      (order : members.Perm ordered) (names : ordered.map Prod.fst = members'.map Prod.fst)
      (values : List.Forall₂ Alike (ordered.map Prod.snd) (members'.map Prod.snd)) :
      Alike (.table origin members) (.table origin' members')

theorem Alike.table_self (origin : Origin) {members : Members}
    (each : ∀ member ∈ members, Alike member.2 member.2) :
    Alike (.table origin members) (.table origin members) := by
  refine .table (.refl members) rfl (List.forall₂_same.2 ?_)
  intro value inside
  obtain ⟨member, named, rfl⟩ := List.mem_map.1 inside
  exact each member named

theorem Alike.refl : ∀ node : Node, Alike node node
  | .text value => .text value
  | .integer value => .integer value
  | .float => .float
  | .boolean value => .boolean value
  | .moment => .moment
  | .array items => by
    refine .array rfl rfl (List.forall₂_same.2 ?_)
    intro item inside
    exact Alike.refl item
  | .table origin members => .table_self origin fun member _ => Alike.refl member.2
  | .tables items => by
    refine .array rfl rfl (List.forall₂_same.2 ?_)
    intro item inside
    obtain ⟨members, within, rfl⟩ := List.mem_map.1 inside
    exact .table_self .header fun member _ => Alike.refl member.2
termination_by node => sizeOf node
decreasing_by
  · have smaller := List.sizeOf_lt_of_mem inside
    simp only [Node.array.sizeOf_spec]
    omega
  · have smaller := List.sizeOf_lt_of_mem ‹member ∈ members›
    cases member
    simp only [Node.table.sizeOf_spec, Prod.mk.sizeOf_spec] at smaller ⊢
    omega
  · have smaller := List.sizeOf_lt_of_mem ‹member ∈ members›
    have smallest := List.sizeOf_lt_of_mem within
    cases member
    simp only [Node.tables.sizeOf_spec, Prod.mk.sizeOf_spec] at smaller ⊢
    omega

/-- What a document binds to a name in one of its tables. -/
def Members.bound? (members : Members) (name field : String) : Option Node :=
  match members.lookup name with
  | some (.table _ inner) => inner.lookup field
  | _ => none

end Toml

theorem Color.ofName?_eq_some_iff {name : String} {color : Color} :
    Color.ofName? name = some color ↔ color.name = name := by
  constructor
  · intro found
    simpa using List.find?_some found
  · rintro rfl
    have all : ∀ c ∈ Color.all, Color.ofName? c.name = some c := by decide
    apply all
    cases color with
    | none => decide
    | normal hue => cases hue <;> decide
    | bright hue => cases hue <;> decide

theorem Format.ofName?_eq_some_iff {name : String} {format : Format} :
    Format.ofName? name = some format ↔ format.name = name := by
  constructor
  · intro found
    simpa using List.find?_some found
  · rintro rfl
    cases format <;> decide

theorem Role.mem_all (role : Role) : role ∈ Role.all := by
  cases role <;> decide

namespace Settings
open Toml

/-! ## What a node says -/

/-- A node that names a choice, by itself or by its only key. -/
inductive Spells : Node → String → Prop
  | text (name : String) : Spells (.text name) name
  | key {origin : Origin} {content : Node} (name : String) (nothing : isEmpty content = true) :
      Spells (.table origin [(name, content)]) name

theorem boolean?_eq_some_iff {node : Node} {b : Bool} :
    boolean? node = some b ↔ node = .boolean b := by
  cases node <;> simp [boolean?]

theorem count?_eq_some_iff {node : Node} {n : Nat} :
    count? node = some n ↔ node = .integer n := by
  cases node with
  | integer value =>
    cases value with
    | ofNat k =>
      constructor
      · intro read
        cases read
        rfl
      · intro same
        cases same
        rfl
    | negSucc k => simp [count?]
  | _ => simp [count?]

theorem choice?_eq_some_iff {α : Type} {ofName? : String → Option α} {name : α → String}
    (named : ∀ {n a}, ofName? n = some a ↔ name a = n) {node : Node} {a : α} :
    choice? ofName? node = some a ↔ Spells node (name a) := by
  constructor
  · intro chosen
    unfold choice? at chosen
    split at chosen
    · rw [named.1 chosen]
      exact .text _
    · split at chosen
      · next nothing =>
        rw [named.1 chosen]
        exact .key _ nothing
      · cases chosen
    · cases chosen
  · intro spelt
    generalize written : name a = n at spelt
    cases spelt with
    | text => exact named.2 written
    | key _ nothing => simpa [choice?, nothing] using named.2 written

/-! ## What a document gives -/

/-- What a document gives to a field of a section: a table gives it by name, an array by place. -/
def given? (members : Members) (name : String) : Section := fun place field =>
  match members.lookup name with
  | some (.table _ inner) => inner.lookup field
  | some node => node.items? >>= (·[place]?)
  | none => none

/-- A field has the value that it is given, or else its default. -/
def Follows {α : Type} (tells : Node → α → Prop) (preset : α) : Option Node → α → Prop
  | none, value => value = preset
  | some node, value => tells node value

/-- What stands under the name of a section, if anything does, can be read as one. -/
def Readable (members : Members) (name : String) : Prop :=
  ∀ node ∈ members.lookup name, (section? node).isSome = true

/-- The sections, each with its fields. -/
def sections : List (String × List String) :=
  [("highlight", ["color"]), ("theme", Role.all.map Role.name), ("tokens", ["format"])]

/-- Each field of the settings has the value that the document gives to it, or else its default. -/
structure Reflects (members : Members) (s : Settings) : Prop where
  readable : ∀ entry ∈ sections, Readable members entry.1
  verbose : Follows (fun node b => node = .boolean b) default.verbose (members.lookup "verbose")
    s.verbose
  jobs : Follows (fun node jobs => ∃ n : Nat, node = .integer n ∧ jobs = some n) default.jobs
    (members.lookup "jobs") s.jobs
  color : Follows (fun node b => node = .boolean b) default.color
    (given? members "highlight" 0 "color") s.color
  theme : ∀ role, Follows (fun node color => Spells node color.name) (default.theme role)
    (given? members "theme" (Role.all.idxOf role) role.name) (s.theme role)
  format : Follows (fun node format => Spells node format.name) default.format
    (given? members "tokens" 0 "format") s.format

theorem orDefault_eq_some_iff {α : Type} {read : Node → Option α} {tells : Node → α → Prop}
    (reads : ∀ {node v}, read node = some v ↔ tells node v) {preset v : α} {given : Option Node} :
    orDefault read preset given = some v ↔ Follows tells preset given v := by
  cases given with
  | none => exact Option.some_inj.trans eq_comm
  | some node => exact reads

theorem given?_of_section {members : Members} {name : String} {node : Node} {fields : Section}
    (found : members.lookup name = some node) (read : section? node = some fields) :
    given? members name = fields := by
  funext place field
  cases node <;> cases read <;> simp [given?, found, Node.items?]

/-- What is read in a section, or else the default. -/
def within {α : Type} (members : Members) (name : String) (read : Section → Option α)
    (preset : α) : Option α :=
  orDefault (fun node => section? node >>= read) preset (members.lookup name)

/-- A section that is not there is as good as one with no field. -/
theorem within_eq_some_iff {α : Type} {members : Members} {name : String}
    {read : Section → Option α} {preset v : α} (blank : read (fun _ _ => none) = some preset) :
    within members name read preset = some v ↔
      Readable members name ∧ read (given? members name) = some v := by
  cases found : members.lookup name with
  | none =>
    have empty : given? members name = fun _ _ => none := by
      funext place field
      simp [given?, found]
    simp [within, Readable, found, empty, blank, orDefault]
  | some node =>
    cases read_section : section? node with
    | none => simp [within, Readable, found, orDefault, read_section]
    | some fields =>
      simp [within, Readable, found, orDefault, read_section,
        given?_of_section found read_section]

theorem themeOf?_eq_some_iff {fields : Section} {theme : Theme} :
    themeOf? fields = some theme ↔
      ∀ role, orDefault (choice? Color.ofName?) (Theme.default role)
        (fields (Role.all.idxOf role) role.name) = some (theme role) := by
  simp only [themeOf?]
  constructor
  · intro read role
    split at read
    · next all =>
      obtain rfl := Option.some.inj read
      have present := List.all_eq_true.1 all role (Role.mem_all role)
      obtain ⟨color, given⟩ := Option.isSome_iff_exists.1 present
      simp only [given, Option.getD_some]
    · cases read
  · intro each
    rw [if_pos]
    · congr 1
      funext role
      rw [each role]
      rfl
    · simp [each]

def colorOf? (fields : Section) : Option Bool :=
  orDefault boolean? default.color (fields 0 "color")

def formatOf? (fields : Section) : Option Format :=
  orDefault (choice? Format.ofName?) default.format (fields 0 "format")

theorem ofMembers?_eq (members : Members) :
    ofMembers? members = do return {
      verbose := ← orDefault boolean? default.verbose (members.lookup "verbose")
      jobs := ← orDefault (fun node => (count? node).map some) default.jobs (members.lookup "jobs")
      color := ← within members "highlight" colorOf? default.color
      theme := ← within members "theme" themeOf? default.theme
      format := ← within members "tokens" formatOf? default.format } := rfl

theorem colorOf?_blank : colorOf? (fun _ _ => none) = some default.color := rfl

theorem formatOf?_blank : formatOf? (fun _ _ => none) = some default.format := rfl

theorem themeOf?_blank : themeOf? (fun _ _ => none) = some default.theme :=
  themeOf?_eq_some_iff.2 fun _ => rfl

theorem ofMembers?_parts {members : Members} {s : Settings} :
    ofMembers? members = some s ↔
      orDefault boolean? default.verbose (members.lookup "verbose") = some s.verbose ∧
      orDefault (fun node => (count? node).map some) default.jobs (members.lookup "jobs") =
        some s.jobs ∧
      within members "highlight" colorOf? default.color = some s.color ∧
      within members "theme" themeOf? default.theme = some s.theme ∧
      within members "tokens" formatOf? default.format = some s.format := by
  rw [ofMembers?_eq]
  constructor
  · intro read
    simp only [Option.bind_eq_bind, Option.bind_eq_some_iff] at read
    obtain ⟨_, verbose, _, jobs, _, color, _, theme, _, format, built⟩ := read
    obtain rfl := Option.some.inj built
    exact ⟨verbose, jobs, color, theme, format⟩
  · rintro ⟨verbose, jobs, color, theme, format⟩
    rw [verbose, jobs, color, theme, format]
    rfl

theorem jobs_eq_some_iff {node : Node} {jobs : Option Nat} :
    (count? node).map some = some jobs ↔ ∃ n : Nat, node = .integer n ∧ jobs = some n := by
  simp only [Option.map_eq_some_iff, count?_eq_some_iff, eq_comm (a := jobs)]

/-- What is read off a document is what reflects it. -/
theorem ofMembers?_eq_some_iff {members : Members} {s : Settings} :
    ofMembers? members = some s ↔ Reflects members s := by
  rw [ofMembers?_parts, orDefault_eq_some_iff boolean?_eq_some_iff,
    orDefault_eq_some_iff jobs_eq_some_iff, within_eq_some_iff colorOf?_blank,
    within_eq_some_iff themeOf?_blank, within_eq_some_iff formatOf?_blank,
    themeOf?_eq_some_iff, colorOf?, formatOf?, orDefault_eq_some_iff boolean?_eq_some_iff,
    orDefault_eq_some_iff (choice?_eq_some_iff Format.ofName?_eq_some_iff)]
  simp only [orDefault_eq_some_iff (choice?_eq_some_iff Color.ofName?_eq_some_iff)]
  constructor
  · rintro ⟨verbose, jobs, ⟨highlight, color⟩, ⟨themed, theme⟩, ⟨dumped, format⟩⟩
    exact ⟨by simp [sections, highlight, themed, dumped], verbose, jobs, color, theme, format⟩
  · rintro ⟨readable, verbose, jobs, color, theme, format⟩
    simp only [sections, List.forall_mem_cons] at readable
    obtain ⟨highlight, themed, dumped, -⟩ := readable
    exact ⟨verbose, jobs, ⟨highlight, color⟩, ⟨themed, theme⟩, ⟨dumped, format⟩⟩

/-! ## Values that are alike -/

theorem length_of_names {members ordered members' : Members} (order : members.Perm ordered)
    (names : ordered.map Prod.fst = members'.map Prod.fst) : members.length = members'.length := by
  have sizes := congrArg List.length names
  rw [List.length_map, List.length_map] at sizes
  rw [order.length_eq, sizes]

theorem isEmpty_of_items {node : Node} {xs : List Node} (listed : node.items? = some xs) :
    isEmpty node = xs.isEmpty := by
  cases node <;> cases listed <;> simp [isEmpty]

theorem isEmpty_alike {a b : Node} (alike : Alike a b) : isEmpty a = isEmpty b := by
  cases alike with
  | text | integer | float | boolean | moment => rfl
  | array left right each =>
    rw [isEmpty_of_items left, isEmpty_of_items right]
    cases each <;> rfl
  | table order names values =>
    rw [isEmpty, isEmpty, Bool.eq_iff_iff, List.isEmpty_iff_length_eq_zero,
      List.isEmpty_iff_length_eq_zero, length_of_names order names]

/-- What reads no array of one sort or the other reads nothing that has items. -/
theorem eq_none_of_items {α : Type} {read : Node → Option α}
    (array : ∀ xs, read (.array xs) = none) (tables : ∀ xs, read (.tables xs) = none)
    {node : Node} {xs : List Node} (listed : node.items? = some xs) : read node = none := by
  cases node with
  | array => exact array _
  | tables => exact tables _
  | _ => cases listed

/-- What reads no array and no table does not see how they are written. -/
theorem scalar_alike {α : Type} {read : Node → Option α} (array : ∀ xs, read (.array xs) = none)
    (tables : ∀ xs, read (.tables xs) = none)
    (table : ∀ origin members, read (.table origin members) = none) {a b : Node}
    (alike : Alike a b) : read a = read b := by
  cases alike with
  | text | integer | float | boolean | moment => rfl
  | array left right =>
    rw [eq_none_of_items array tables left, eq_none_of_items array tables right]
  | table => rw [table, table]

theorem boolean?_alike {a b : Node} (alike : Alike a b) : boolean? a = boolean? b :=
  scalar_alike (fun _ => rfl) (fun _ => rfl) (fun _ _ => rfl) alike

theorem count?_alike {a b : Node} (alike : Alike a b) : count? a = count? b :=
  scalar_alike (fun _ => rfl) (fun _ => rfl) (fun _ _ => rfl) alike

theorem choice?_of_length {α : Type} (ofName? : String → Option α) (origin : Origin)
    {members : Members} (several : members.length ≠ 1) :
    choice? ofName? (.table origin members) = none := by
  match members with
  | [] => rfl
  | [_] => contradiction
  | _ :: _ :: _ => rfl

theorem choice?_alike {α : Type} (ofName? : String → Option α) {a b : Node} (alike : Alike a b) :
    choice? ofName? a = choice? ofName? b := by
  cases alike with
  | text | integer | float | boolean | moment => rfl
  | array left right =>
    have unread {node xs} :=
      @eq_none_of_items _ (choice? ofName?) (fun _ => rfl) (fun _ => rfl) node xs
    rw [unread left, unread right]
  | @table origin origin' members ordered members' order names values =>
    -- One member has no order, and a table with more than one makes no choice.
    by_cases single : members'.length = 1
    · obtain ⟨⟨name, content'⟩, rfl⟩ := List.length_eq_one_iff.1 single
      obtain ⟨⟨_, content⟩, rfl, rfl⟩ := List.map_eq_singleton_iff.1 names
      obtain rfl := List.perm_singleton.1 order
      obtain ⟨same, -⟩ := List.forall₂_cons.1 values
      simp only [choice?, isEmpty_alike same]
    · have several : members.length ≠ 1 := by rwa [length_of_names order names]
      rw [choice?_of_length ofName? origin several, choice?_of_length ofName? origin' single]

theorem orDefault_alike {α : Type} {read : Node → Option α}
    (same : ∀ {a b}, Alike a b → read a = read b) (preset : α) {given given' : Option Node}
    (alike : Option.Rel Alike given given') :
    orDefault read preset given = orDefault read preset given' := by
  cases alike with
  | none => rfl
  | some alike => exact same alike

theorem themeOf?_alike {fields fields' : Section}
    (alike : ∀ role : Role, Option.Rel Alike (fields (Role.all.idxOf role) role.name)
      (fields' (Role.all.idxOf role) role.name)) :
    themeOf? fields = themeOf? fields' := by
  apply Option.ext
  intro theme
  rw [themeOf?_eq_some_iff, themeOf?_eq_some_iff]
  apply forall_congr'
  intro role
  rw [orDefault_alike (choice?_alike Color.ofName?) (Theme.default role) (alike role)]

/-! ## Documents that agree -/

/-- What stands under the name of a section, if anything does, is a table. -/
def Tabular (members : Members) (name : String) : Prop :=
  ∀ node ∈ members.lookup name, node.isTable = true

/-- Two documents give the same values to all that has a meaning, with tables for sections. -/
structure Agree (members members' : Members) : Prop where
  verbose : Option.Rel Alike (members.lookup "verbose") (members'.lookup "verbose")
  jobs : Option.Rel Alike (members.lookup "jobs") (members'.lookup "jobs")
  tabular : ∀ entry ∈ sections, Tabular members entry.1 ∧ Tabular members' entry.1
  fields : ∀ entry ∈ sections, ∀ field ∈ entry.2,
    Option.Rel Alike (members.bound? entry.1 field) (members'.bound? entry.1 field)

theorem table_of_tabular {members : Members} {name : String} {node : Node}
    (tabular : Tabular members name) (found : members.lookup name = some node) :
    ∃ origin inner, node = .table origin inner := by
  have table := tabular node found
  cases node with
  | table origin inner => exact ⟨origin, inner, rfl⟩
  | _ => cases table

theorem given?_of_tabular {members : Members} {name : String} (tabular : Tabular members name)
    (place : Nat) (field : String) :
    given? members name place field = members.bound? name field := by
  cases found : members.lookup name with
  | none => simp [given?, Members.bound?, found]
  | some node =>
    obtain ⟨origin, inner, rfl⟩ := table_of_tabular tabular found
    simp [given?, Members.bound?, found]

theorem readable_of_tabular {members : Members} {name : String} (tabular : Tabular members name) :
    Readable members name := by
  intro node found
  obtain ⟨origin, inner, rfl⟩ := table_of_tabular tabular found
  rfl

theorem within_of_tabular {α : Type} {members : Members} {name : String}
    {read : Section → Option α} {preset : α} (blank : read (fun _ _ => none) = some preset)
    (tabular : Tabular members name) :
    within members name read preset = read fun _ field => members.bound? name field := by
  have by_name : given? members name = fun _ field => members.bound? name field := by
    funext place field
    exact given?_of_tabular tabular place field
  apply Option.ext
  intro v
  rw [within_eq_some_iff blank, by_name]
  exact and_iff_right (readable_of_tabular tabular)

theorem within_agree {α : Type} {members members' : Members} {name : String}
    {read : Section → Option α} {preset : α} (blank : read (fun _ _ => none) = some preset)
    (tabular : Tabular members name ∧ Tabular members' name)
    (same : (read fun _ field => members.bound? name field) =
      read fun _ field => members'.bound? name field) :
    within members name read preset = within members' name read preset := by
  rw [within_of_tabular blank tabular.1, within_of_tabular blank tabular.2, same]

theorem ofMembers?_agree {members members' : Members} (agree : Agree members members') :
    ofMembers? members = ofMembers? members' := by
  have highlight : ("highlight", ["color"]) ∈ sections := by simp [sections]
  have themed : ("theme", Role.all.map Role.name) ∈ sections := by simp [sections]
  have dumped : ("tokens", ["format"]) ∈ sections := by simp [sections]
  have verbose := orDefault_alike boolean?_alike default.verbose agree.verbose
  have jobs := orDefault_alike (fun alike => congrArg (Option.map some) (count?_alike alike))
    default.jobs agree.jobs
  have color : within members "highlight" colorOf? default.color =
      within members' "highlight" colorOf? default.color := by
    apply within_agree colorOf?_blank (agree.tabular _ highlight)
    apply orDefault_alike boolean?_alike
    exact agree.fields _ highlight "color" (by simp)
  have theme : within members "theme" themeOf? default.theme =
      within members' "theme" themeOf? default.theme := by
    apply within_agree themeOf?_blank (agree.tabular _ themed)
    apply themeOf?_alike
    intro role
    exact agree.fields _ themed role.name (List.mem_map_of_mem (Role.mem_all role))
  have format : within members "tokens" formatOf? default.format =
      within members' "tokens" formatOf? default.format := by
    apply within_agree formatOf?_blank (agree.tabular _ dumped)
    apply orDefault_alike (choice?_alike Format.ofName?)
    exact agree.fields _ dumped "format" (by simp)
  rw [ofMembers?_eq, ofMembers?_eq, verbose, jobs, color, theme, format]

/-! ## Settings files -/

theorem load_of_read {files : Files} {path : String} {text : Text}
    (read : files.read path = .ok text) : load files path = (ofText text).mapError .config := by
  have found : files.exists? path = true := by
    unfold Files.read at read
    rw [Files.exists?]
    cases lookup : files.find path with
    | error fault => simp [lookup] at read
    | ok entry => rfl
  rw [load, found, read]
  rfl

theorem ofText_eq_ok_iff {text : Text} {s : Settings} :
    ofText text = .ok s ↔ ∃ members, parse? text = some members ∧ Reflects members s ∧
      s.jobs ≠ some 0 := by
  simp only [← ofMembers?_eq_some_iff]
  constructor
  · intro loaded
    unfold ofText at loaded
    split at loaded
    · cases loaded
    · next settings found =>
      obtain ⟨members, parsed, read⟩ := Option.bind_eq_some_iff.1 found
      split at loaded
      · cases loaded
      · next some_jobs =>
        cases loaded
        exact ⟨members, parsed, read, some_jobs⟩
  · rintro ⟨members, parsed, read, some_jobs⟩
    simp [ofText, parsed, read, some_jobs]

theorem load_eq_ok_iff {files : Files} {path : String} {s : Settings} :
    load files path = .ok s ↔ ∃ text, files.read path = .ok text ∧ ofText text = .ok s := by
  cases read : files.read path with
  | ok text =>
    rw [load_of_read read]
    cases found : ofText text <;> simp [Except.mapError, found]
  | error fault =>
    refine iff_of_false ?_ (by simp)
    intro loaded
    unfold load at loaded
    rw [read] at loaded
    split at loaded <;> cases loaded

/-- There is work to do on any machine. -/
theorem some_jobs_iff {s : Settings} :
    s.jobs ≠ some 0 ↔ ∀ processors, 1 ≤ processors → 1 ≤ s.jobs.getD processors := by
  cases s.jobs with
  | none => simp
  | some n =>
    simp only [ne_eq, Option.some.injEq, Option.getD_some]
    constructor
    · intro some_jobs _ _
      omega
    · intro enough
      have := enough 1 (Nat.le_refl 1)
      omega

theorem Reflects.no_jobs {members : Members} {s : Settings} (reflects : Reflects members s)
    (asked : members.lookup "jobs" = some (.integer 0)) : s.jobs = some 0 := by
  have jobs := reflects.jobs
  rw [asked] at jobs
  obtain ⟨n, zero, set⟩ := jobs
  have same : (0 : Int) = n := Node.integer.inj zero
  rw [set, Option.some.injEq]
  omega

/-- A file loads as what reflects its document, unless there is no work to do. So one that asks for
no jobs never loads, and two whose documents agree load alike. -/
theorem load_by_field (files : Files) (path : String) :
    (∀ s, load files path = .ok s ↔ ∃ text members, files.read path = .ok text ∧
        parse? text = some members ∧ Reflects members s ∧
        ∀ processors, 1 ≤ processors → 1 ≤ s.jobs.getD processors) ∧
      ∀ text members, files.read path = .ok text → parse? text = some members →
        (members.lookup "jobs" = some (.integer 0) → ∀ s, load files path ≠ .ok s) ∧
        ∀ (files' : Files) (path' : String) (text' : Text) (members' : Members),
          files'.read path' = .ok text' → parse? text' = some members' → Agree members members' →
            load files' path' = load files path := by
  have loads (s : Settings) : load files path = .ok s ↔ ∃ text members,
      files.read path = .ok text ∧ parse? text = some members ∧ Reflects members s ∧
        ∀ processors, 1 ≤ processors → 1 ≤ s.jobs.getD processors := by
    simp only [load_eq_ok_iff, ofText_eq_ok_iff, some_jobs_iff, exists_and_left]
  refine ⟨loads, ?_⟩
  intro text members read parsed
  constructor
  · intro asked s loaded
    obtain ⟨_, _, read', parsed', reflects, enough⟩ := (loads s).1 loaded
    cases read.symm.trans read'
    cases parsed.symm.trans parsed'
    exact some_jobs_iff.2 enough (reflects.no_jobs asked)
  · intro files' path' text' members' read' parsed' agree
    rw [load_of_read read, load_of_read read', ofText, ofText, parsed, parsed']
    simp only [Option.bind_eq_bind, Option.bind_some, ofMembers?_agree agree]

theorem read_alone (text : Text) :
    Files.read [(["a"], .file (Text.utf8 text))] "a" = .ok text := by
  have cut : "a".splitOn "/" = ["a"] := by
    rw [String.splitOn, if_neg (by decide), String.splitOnAux, if_neg (by decide +kernel),
      if_neg (by decide +kernel), String.splitOnAux, if_pos (by decide +kernel)]
    decide +kernel
  have steps : Files.steps "a" = ["a"] := by
    rw [Files.steps, cut]
    decide +kernel
  have size : "a".utf8ByteSize = 1 := by decide
  simp [Files.read, Files.find, steps, size, Files.walk, Files.entry?, Files.enter, Files.maxName,
    Files.maxPath, Text.ofUtf8?_utf8]

/-- The same theme with and without a header, beside keys that mean nothing. A key that is called
`jobs` in another table is one of them, but at the root it may not be zero. -/
theorem load_by_field_rewritten :
    let file (text : Text) : Files := [(["a"], .file (Text.utf8 text))]
    let text := "jobs = 2\nx = 1\n[theme]\nstring = 'red'".toList
    let text' := "theme.string = 'red'\njobs = +2\n[y]\njobs = 0".toList
    let members : Members := [("jobs", .integer 2), ("x", .integer 1),
      ("theme", .table .header [("string", .text "red")])]
    let members' : Members := [("theme", .table .dotted [("string", .text "red")]),
      ("jobs", .integer 2), ("y", .table .header [("jobs", .integer 0)])]
    parse? text = some members ∧ parse? text' = some members' ∧ Agree members members' ∧
      load (file text') "a" = load (file text) "a" ∧
      parse? "jobs=0".toList = some [("jobs", .integer 0)] ∧
      ∀ s, load (file "jobs=0".toList) "a" ≠ .ok s := by
  intro file text text' members members'
  have parsed : parse? text = some members := by decide +kernel
  have parsed' : parse? text' = some members' := by decide +kernel
  have zero : parse? "jobs=0".toList = some [("jobs", .integer 0)] := by decide +kernel
  have agree : Agree members members' := by
    refine ⟨.none, .some (.integer 2), ?_, ?_⟩
    · simp only [Tabular]
      decide
    · -- The sections hold the same nodes; only how the theme came about differs.
      intro entry inside field _
      have same : members.bound? entry.1 field = members'.bound? entry.1 field := by
        simp only [sections, List.mem_cons, List.not_mem_nil, or_false] at inside
        rcases inside with rfl | rfl | rfl <;> rfl
      rw [same]
      cases members'.bound? entry.1 field with
      | none => exact .none
      | some node => exact .some (.refl node)
  have same := ((load_by_field (file text) "a").2 text members (read_alone text) parsed).2
    (file text') "a" text' members' (read_alone text') parsed' agree
  have refused := ((load_by_field (file "jobs=0".toList) "a").2 _ _ (read_alone _) zero).1 rfl
  exact ⟨parsed, parsed', agree, same, zero, refused⟩

/-- The only section is an array, so no key names its field; but the array has a value in the place
of the field, and that is not the default. -/
theorem highlight_by_place :
    let text := "highlight = [false]".toList
    let members : Members := [("highlight", .array [.boolean false])]
    let files : Files := [(["a"], .file (Text.utf8 text))]
    load files "a" = .ok { default with color := false } ∧
      files.read "a" = .ok text ∧ parse? text = some members ∧
      members.bound? "highlight" "color" = none ∧
      ¬ Follows (fun node b => node = .boolean b) default.color
        (members.bound? "highlight" "color") false := by
  intro text members files
  have read : files.read "a" = .ok text := read_alone text
  have parsed : parse? text = some members := by decide +kernel
  have set : ofMembers? members = some { default with color := false } :=
    ofMembers?_parts.2 ⟨rfl, rfl, rfl, rfl, rfl⟩
  have loaded : ofText text = .ok { default with color := false } :=
    ofText_eq_ok_iff.2 ⟨members, parsed, ofMembers?_eq_some_iff.1 set, by simp [default]⟩
  refine ⟨load_eq_ok_iff.2 ⟨text, read, loaded⟩, read, parsed, rfl, ?_⟩
  intro preset
  cases preset

end Settings

end QueryInk

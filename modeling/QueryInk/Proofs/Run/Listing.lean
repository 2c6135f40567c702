import QueryInk.Proofs.Run.Verdict
import QueryInk.Proofs.Text.Terminators

/-!
# A text dump read back

Neither the place nor the style of a record holds a tab, and numbers hold no colon
or dash, so the first two tabs of a line and the last marks of its place cut it
into its fields again (`read?_display`). A lexeme is part of a line of its
document, so it holds no line feed (`feed_notMem_text`).
-/

namespace QueryInk

namespace Text

/-- What stands before and after the first `mark` of a text. -/
def cutFirst? (mark : Char) (t : Text) : Option (Text × Text) :=
  match t.dropWhile (· != mark) with
  | [] => none
  | _ :: after => some (t.takeWhile (· != mark), after)

/-- What stands before and after the last `mark` of a text. -/
def cutLast? (mark : Char) (t : Text) : Option (Text × Text) :=
  (cutFirst? mark t.reverse).map fun (after, before) => (before.reverse, after.reverse)

/-- The number that a text of digits stands for. -/
def readCount? (t : Text) : Option Nat :=
  if t ≠ [] ∧ t.all Char.isDigit then some (Decimal.ofDigits t) else none

theorem cutFirst?_append {mark : Char} {before : Text} (unmarked : mark ∉ before) (after : Text) :
    cutFirst? mark (before ++ mark :: after) = some (before, after) := by
  have passes : ∀ c ∈ before, (c != mark) = true := by
    intro c member
    rw [bne_iff_ne]
    rintro rfl
    exact unmarked member
  rw [cutFirst?, List.dropWhile_append_of_pos passes, List.takeWhile_append_of_pos passes]
  simp

theorem cutLast?_append {mark : Char} {after : Text} (before : Text) (unmarked : mark ∉ after) :
    cutLast? mark (before ++ mark :: after) = some (before, after) := by
  have turned : (before ++ mark :: after).reverse = after.reverse ++ mark :: before.reverse := by
    simp
  rw [cutLast?, turned, cutFirst?_append (by simpa using unmarked)]
  simp

theorem readCount?_toDigits (n : Nat) : readCount? (Nat.toDigits 10 n) = some n := by
  have digits : (Nat.toDigits 10 n).all Char.isDigit = true := by
    rw [List.all_eq_true]
    intro c member
    exact Nat.isDigit_of_mem_toDigits (by decide) (by decide) member
  rw [readCount?, if_pos ⟨Nat.toDigits_ne_nil, digits⟩, Decimal.ofDigits_toDigits]

end Text

/-- What a line of a dump says: a record, without its source if that is not shown. -/
structure Entry where
  source : Option String
  line : Nat
  start : Nat
  stop : Nat
  kind : Kind
  text : Text
  deriving DecidableEq, Repr

def Record.entry (several : Bool) (r : Record) : Entry :=
  ⟨if several then some r.source else none, r.line, r.start, r.stop, r.kind, r.text⟩

namespace Record

/-- The source of a record, if it is shown, and its line. -/
def heading (several : Bool) (r : Record) : Text :=
  (if several then r.source.toList ++ [':'] else []) ++ Nat.toDigits 10 r.line

/-- Where a record is. -/
def place (several : Bool) (r : Record) : Text :=
  r.heading several ++ ':' :: Nat.toDigits 10 r.start ++ '-' :: Nat.toDigits 10 r.stop

theorem display_eq (several : Bool) (r : Record) :
    r.display several = r.place several ++ '\t' :: (r.style.toList ++ '\t' :: r.text) := by
  simp [display, location, place, heading]

/-- The marks of a place are its own, all else is digits and the name of the source. -/
theorem notMem_place (several : Bool) {r : Record} {c : Char} (other : c.isDigit = false)
    (colon : c ≠ ':') (dash : c ≠ '-') (named : c ∉ r.source.toList) : c ∉ r.place several := by
  have digits := Text.notMem_toDigits c other
  cases several <;> simp [place, heading, digits, colon, dash, named]

end Record

namespace Entry

/-- Reads `[source:]line`. -/
def readHeading? (several : Bool) (t : Text) : Option (Option String × Nat) :=
  if several then do
    let (source, line) ← Text.cutLast? ':' t
    return (some (String.ofList source), ← Text.readCount? line)
  else return (none, ← Text.readCount? t)

/-- Reads a line `[source:]line:start-stop TAB style TAB text`. -/
def read? (several : Bool) (t : Text) : Option Entry := do
  let (place, rest) ← Text.cutFirst? '\t' t
  let (style, text) ← Text.cutFirst? '\t' rest
  let kind ← Kind.ofStyle? (String.ofList style)
  let (place, stop) ← Text.cutLast? '-' place
  let (heading, start) ← Text.cutLast? ':' place
  let (source, line) ← readHeading? several heading
  return ⟨source, line, ← Text.readCount? start, ← Text.readCount? stop, kind, text⟩

/-- Reads a text of lines, each ended by a line feed. -/
def readLines? (several : Bool) (t : Text) : Option (List Entry) := do
  let lines := t.splitOn '\n'
  guard (lines.getLast? = some [])
  lines.dropLast.mapM (read? several)

/-- The entries in the bytes of a dump. -/
def ofDump? (several : Bool) (bytes : Bytes) : Option (List Entry) :=
  Text.ofUtf8? bytes >>= readLines? several

variable (several : Bool)

theorem readHeading?_heading (r : Record) :
    readHeading? several (r.heading several) =
      some (if several then some r.source else none, r.line) := by
  cases several with
  | false => simp [readHeading?, Record.heading, Text.readCount?_toDigits]
  | true =>
    have cut := Text.cutLast?_append r.source.toList (Text.notMem_toDigits ':' rfl r.line)
    simp [readHeading?, Record.heading, cut, Text.readCount?_toDigits]

/-- A record is read back from its line in a dump. -/
theorem read?_display {r : Record} (named : '\t' ∉ r.source.toList) :
    read? several (r.display several) = some (r.entry several) := by
  have untabbed := Record.notMem_place several rfl (by decide) (by decide) named
  have tab := Text.cutFirst?_append untabbed (r.style.toList ++ '\t' :: r.text)
  have plain : '\t' ∉ r.style.toList := r.kind.notMem_style (.inl rfl)
  have next_tab := Text.cutFirst?_append plain r.text
  have dash : Text.cutLast? '-' (r.place several) = _ :=
    Text.cutLast?_append _ (Text.notMem_toDigits '-' rfl r.stop)
  have colon := Text.cutLast?_append (r.heading several) (Text.notMem_toDigits ':' rfl r.start)
  have kind : Kind.ofStyle? (String.ofList r.style.toList) = some r.kind := by
    rw [String.ofList_toList]
    exact r.kind.ofStyle?_style
  rw [read?, Record.display_eq, tab]
  simp only [Option.bind_eq_bind, Option.bind_some, next_tab, kind, dash, colon,
    readHeading?_heading, Text.readCount?_toDigits]
  rfl

end Entry

/-! ## Lines of a dump -/

theorem Text.mem_of_mem_takeBytes {n : Nat} {t : Text} {c : Char} (h : c ∈ takeBytes n t) :
    c ∈ t := by
  induction t generalizing n with
  | nil => cases n <;> cases h
  | cons d t ih =>
    cases n with
    | zero => cases h
    | succ n =>
      rw [takeBytes, List.mem_cons] at h
      rcases h with rfl | later
      · exact List.mem_cons_self
      · exact List.mem_cons_of_mem _ (ih later)

theorem Text.mem_of_mem_slice {t : Text} {start stop : Nat} {c : Char}
    (h : c ∈ slice t start stop) : c ∈ t :=
  (dropBytes_suffix start t).subset (mem_of_mem_takeBytes h)

namespace Record

theorem source_of_mem {source : String} {text : Text} {r : Record} (h : r ∈ ofText source text) :
    r.source = source := by
  rw [ofText_eq] at h
  obtain ⟨place, -, rfl⟩ := List.mem_map.1 h
  rfl

/-- A lexeme lies within a line. -/
theorem feed_notMem_text {source : String} {text : Text} {r : Record} (h : r ∈ ofText source text) :
    '\n' ∉ r.text := by
  rw [ofText_eq] at h
  obtain ⟨place, placed, rfl⟩ := List.mem_map.1 h
  obtain ⟨t, found, eq⟩ := Document.mem_lines.1 (Document.mem_placed.1 placed).1
  intro feed
  have inside : '\n' ∈ place.1.text := Text.mem_of_mem_slice feed
  rw [eq] at inside
  exact (Text.of_mem_lines (List.mem_of_getElem? found) inside).2 rfl

theorem ofSources_eq (files : Files) (input : Bytes) (sources : List Source) :
    ofSources files input sources =
      (Source.readable files input sources).flatMap fun (source, text) =>
        ofText source.name text := by
  rw [ofSources, Source.readable, List.flatMap, List.map_filterMap]
  congr 2
  funext source
  rw [Option.map_map]
  rfl

theorem mem_ofSources {files : Files} {input : Bytes} {sources : List Source} {r : Record}
    (h : r ∈ ofSources files input sources) :
    ∃ source ∈ sources, ∃ text, r ∈ ofText source.name text := by
  rw [ofSources_eq] at h
  obtain ⟨⟨source, text⟩, listed, member⟩ := List.mem_flatMap.1 h
  exact ⟨source, (Source.mem_readable.1 listed).1, text, member⟩

theorem mapM_read? (several : Bool) {records : List Record}
    (named : ∀ r ∈ records, '\t' ∉ r.source.toList) :
    (records.map (display several)).mapM (Entry.read? several) =
      some (records.map (entry several)) := by
  induction records with
  | nil => rfl
  | cons r records ih =>
    have first := Entry.read?_display several (named r List.mem_cons_self)
    have rest := ih fun other member => named other (List.mem_cons_of_mem r member)
    simp [first, rest]

/-- The lines of a dump read back, one record from each. -/
theorem readLines?_display (several : Bool) {records : List Record}
    (named : ∀ r ∈ records, '\t' ∉ r.source.toList ∧ '\n' ∉ r.source.toList)
    (within : ∀ r ∈ records, '\n' ∉ r.text) :
    Entry.readLines? several (records.flatMap fun r => Command.endLine (r.display several)) =
      some (records.map (entry several)) := by
  have unended : ∀ line ∈ records.map (display several), '\n' ∉ line := by
    intro line listed
    obtain ⟨r, member, rfl⟩ := List.mem_map.1 listed
    have place := notMem_place several rfl (by decide) (by decide) (named r member).2
    have style : '\n' ∉ r.style.toList := r.kind.notMem_style (.inr rfl)
    simp [display_eq, place, style, within r member]
  have written : (records.flatMap fun r => Command.endLine (r.display several)) =
      Text.unlines (records.map (display several)) := by
    rw [Text.unlines, List.flatMap_map]
    rfl
  have split := Text.splitOn_unlines unended
  have read := mapM_read? several fun r member => (named r member).1
  simp [Entry.readLines?, written, split, read]

theorem entry_injective : Function.Injective (entry true) := by
  rintro ⟨⟩ ⟨⟩ same
  simpa [entry] using same

end Record

namespace Request

/-- A dump as text of sources whose names hold no tab and no line feed. -/
structure Lists (request : Request) (workers : Workers) (sources : List Source) : Prop where
  command : request.command = .tokens .text
  accepted : Source.ofArguments request.files request.expr = .ok sources
  assembled : workers.assemble = .ok ()
  named : ∀ source ∈ sources, '\t' ∉ source.name.toList ∧ '\n' ∉ source.name.toList

/-- The bytes that a run writes where there is room for all of them. -/
def listing (request : Request) (workers : Workers) (files : Files) (input : Bytes) : Bytes :=
  ((request.runWith workers files input).run (Journal.ofSink .endless)).2.sink.written.toList

variable {request : Request} {workers : Workers} {sources : List Source}

theorem listing_eq (lists : request.Lists workers sources) (files : Files) (input : Bytes) :
    request.listing workers files input =
      Text.utf8 ((Record.ofSources files input sources).flatMap fun r =>
        Command.endLine (r.display (1 < sources.length))) := by
  obtain ⟨-, holds⟩ := run_limited none none files input lists.accepted lists.assembled
  rw [lists.command, Command.transcript, several_eq] at holds
  simp only [Record.toList_report, Source.label_eq] at holds
  rw [Record.ofSources_eq, List.flatMap_assoc]
  exact holds

theorem ofDump?_listing (lists : request.Lists workers sources) (files : Files) (input : Bytes) :
    Entry.ofDump? (1 < sources.length) (request.listing workers files input) =
      some ((Record.ofSources files input sources).map (Record.entry (1 < sources.length))) := by
  rw [listing_eq lists, Entry.ofDump?, Text.ofUtf8?_utf8]
  apply Record.readLines?_display
  · intro r member
    obtain ⟨source, given, text, found⟩ := Record.mem_ofSources member
    rw [Record.source_of_mem found]
    exact lists.named source given
  · intro r member
    obtain ⟨source, -, text, found⟩ := Record.mem_ofSources member
    exact Record.feed_notMem_text found

/-- From the bytes of a dump as text, its records are read back, in order, with the source if there
are several. So two dumps of as many sources that are the same byte for byte are of the same
records; only a single source may have another name. -/
theorem listing_decodes (lists : request.Lists workers sources) (files : Files) (input : Bytes) :
    let several := decide (1 < sources.length)
    let records := Record.ofSources files input sources
    Entry.ofDump? several (request.listing workers files input) =
        some (records.map (Record.entry several)) ∧
      ∀ other workers' others files' input', Lists other workers' others →
        others.length = sources.length →
        other.listing workers' files' input' = request.listing workers files input →
        let records' := Record.ofSources files' input' others
        records'.map (Record.entry false) = records.map (Record.entry false) ∧
          (1 < sources.length → records' = records) := by
  intro several records
  have read := ofDump?_listing lists files input
  refine ⟨read, ?_⟩
  intro other workers' others files' input' lists' same_number same_bytes records'
  have read' := ofDump?_listing lists' files' input'
  rw [same_number, same_bytes, read, Option.some.injEq] at read'
  by_cases many : 1 < sources.length
  · rw [decide_eq_true many] at read'
    have same : records' = records :=
      (List.map_injective_iff.2 Record.entry_injective read').symm
    exact ⟨by rw [same], fun _ => same⟩
  · rw [decide_eq_false many] at read'
    exact ⟨read'.symm, fun several => absurd several many⟩

/-- A lexeme that looks like the start of a record, tabs and all. The first source is lost. -/
theorem listing_decodes_tabs :
    let request : Request := ⟨.tokens .text, ["", "-"], none, false⟩
    request.Lists .ready [.file "", .stdin] ∧
      Entry.ofDump? true (request.listing .ready [] (Text.utf8 "'1:0-1\t' é".toList)) =
        some [⟨some "<stdin>", 1, 0, 8, .string, "'1:0-1\t'".toList⟩,
          ⟨some "<stdin>", 1, 9, 11, .stray, ['é']⟩] := by
  intro request
  have lists : request.Lists .ready [.file "", .stdin] := ⟨rfl, rfl, rfl, by decide⟩
  obtain ⟨read, -⟩ := listing_decodes lists [] (Text.utf8 "'1:0-1\t' é".toList)
  refine ⟨lists, read.trans ?_⟩
  have held := Source.content_stdin [] "'1:0-1\t' é".toList
  have lost (input : Bytes) : (Source.content [] input (.file "")).toOption = none := rfl
  rw [Record.ofSources, List.filterMap_cons, lost, List.filterMap_cons, held]
  decide +kernel

end Request

end QueryInk

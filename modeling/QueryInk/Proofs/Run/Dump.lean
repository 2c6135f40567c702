import QueryInk.Proofs.Document.Agreement
import QueryInk.Proofs.Json.Printed
import QueryInk.Proofs.Json.Reader
import QueryInk.Proofs.Run.Bounded

namespace QueryInk

namespace Text

theorem utf8_append (s t : Text) : utf8 (s ++ t) = utf8 s ++ utf8 t := List.flatMap_append

end Text

theorem Decimal.ofDigits_toDigits (n : Nat) : ofDigits (Nat.toDigits 10 n) = n := by
  rw [ofDigits, ← Nat.ofDigitChars_eq_foldl, Nat.ofDigitChars_ten_toDigits]

namespace Json.Value

def string? : Value → Option Text
  | string t => some t
  | _ => none

/-- The number that a literal of digits only stands for. -/
def count? : Value → Option Nat
  | number ⟨false, whole, [], none⟩ => some (Decimal.ofDigits whole)
  | _ => none

def items? : Value → Option (List Value)
  | array items => some items
  | _ => none

def members? : Value → Option (List (Text × Value))
  | object members => some members
  | _ => none

theorem count?_countLiteral (n : Nat) : count? (number (countLiteral n)) = some n :=
  congrArg some (Decimal.ofDigits_toDigits n)

end Json.Value

namespace Record
open Json (Value)

/-- A record as a value: six members, in this order. -/
def toJson (r : Record) : Value :=
  .object [("source".toList, .string r.source.toList),
    ("line".toList, .number (Json.countLiteral r.line)),
    ("start".toList, .number (Json.countLiteral r.start)),
    ("end".toList, .number (Json.countLiteral r.stop)),
    ("style".toList, .string r.style.toList),
    ("text".toList, .string r.text)]

/-- The record that an object with its six members, and no others, stands for. -/
def ofJson? (v : Value) : Option Record := do
  let members ← v.members?
  guard (members.length = 6)
  let source ← members.lookup "source".toList >>= Value.string?
  let line ← members.lookup "line".toList >>= Value.count?
  let start ← members.lookup "start".toList >>= Value.count?
  let stop ← members.lookup "end".toList >>= Value.count?
  let kind ← members.lookup "style".toList >>= Value.string? >>= (Kind.ofStyle? <| String.ofList ·)
  let text ← members.lookup "text".toList >>= Value.string?
  return ⟨String.ofList source, line, start, stop, kind, text⟩

theorem ofJson?_toJson (r : Record) : ofJson? r.toJson = some r := by
  simp [ofJson?, toJson, Value.members?, List.lookup_cons, Value.count?_countLiteral,
    Value.string?, style, Kind.ofStyle?_style]

theorem mapM_ofJson? (records : List Record) :
    (records.map toJson).mapM ofJson? = some records := by
  induction records with
  | nil => rfl
  | cons r records ih => simp [ofJson?_toJson, ih]

theorem dumpJson_spells (records : List Record) :
    Json.Spells (dumpJson records) (.array (records.map toJson)) := by
  have spelled := Json.print_spells (records.map toRow)
  rwa [List.map_map] at spelled

/-- The records in the bytes of a dump. -/
def ofDump? (bytes : Bytes) : Option (List Record) := do
  let text ← Text.ofUtf8? bytes
  let items ← Json.read? text >>= Value.items?
  items.mapM ofJson?

/-- A dump and the line feed after it. -/
theorem ofDump?_dumpJson (records : List Record) :
    ofDump? (Text.utf8 (dumpJson records ++ ['\n'])) = some records := by
  let whole : Json.Element := ⟨[], dumpJson records, ['\n'], .array (records.map toJson),
    by decide, by decide⟩
  have read : Json.read? (dumpJson records ++ ['\n']) = some (.array (records.map toJson)) :=
    Json.read?_written (e := whole) (dumpJson_spells records)
  rw [ofDump?, Text.ofUtf8?_utf8]
  simp only [Option.bind_eq_bind, Option.bind_some, read, Value.items?, mapM_ofJson?]

/-- The records of the sources that can be read, one source after the other. -/
def ofSources (files : Files) (input : Bytes) (sources : List Source) : List Record :=
  (sources.filterMap fun source =>
    (source.content files input).toOption.map (ofText source.name)).flatten

end Record

namespace Request

variable {request : Request} {sources : List Source} {workers : Workers}

theorem records_json (json : request.command = .tokens .json)
    (accepted : Source.ofArguments request.files request.expr = .ok sources) (files : Files)
    (input : Bytes) :
    Outcomes.records (sources.zip (request.results files input sources)) =
      Record.ofSources files input sources := by
  rw [Outcomes.records, outputs_eq accepted, json, Record.ofSources, List.flatMap,
    List.map_filterMap]
  congr 2
  funext source
  exact Option.map_map ..

theorem written_json (json : request.command = .tokens .json)
    (accepted : Source.ofArguments request.files request.expr = .ok sources)
    (assembled : workers.assemble = .ok ()) (files : Files) (input : Bytes) :
    ((request.runWith workers files input).run (Journal.ofSink .endless)).2.sink.written.toList =
      Text.utf8 (Record.dumpJson (Record.ofSources files input sources) ++ ['\n']) := by
  have fills := fills_json json (chunks_json json accepted files input) 0
  obtain ⟨journal, reported, holds⟩ := fills.full
  rw [← runWith_assembled accepted assembled files input] at reported
  rw [reported, Text.utf8_append, ← records_json json accepted]
  exact holds

/-- A JSON dump is one array and a line feed. The array stands for the records of the sources that
can be read, in order, and for nothing else, and from the bytes these records are read back. -/
theorem dump_decodes (json : request.command = .tokens .json)
    (accepted : Source.ofArguments request.files request.expr = .ok sources)
    (assembled : workers.assemble = .ok ()) (files : Files) (input : Bytes) :
    let run := (request.runWith workers files input).run (Journal.ofSink .endless)
    let bytes := run.2.sink.written.toList
    let records := Record.ofSources files input sources
    (∃ array : Text, bytes = Text.utf8 (array ++ ['\n']) ∧
      ∀ v, Json.Spells array v ↔ v = .array (records.map Record.toJson)) ∧
    Record.ofDump? bytes = some records := by
  intro run bytes records
  have written : bytes = Text.utf8 (Record.dumpJson records ++ ['\n']) :=
    written_json json accepted assembled files input
  have spelled := Record.dumpJson_spells records
  refine ⟨⟨Record.dumpJson records, written, ?_⟩, ?_⟩
  · intro v
    constructor
    · intro other
      exact other.unique spelled
    · rintro rfl
      exact spelled
  · rw [written, Record.ofDump?_dumpJson]

/-- A quote, a backslash, a tab and a letter of two bytes come back. The second source cannot be
read. -/
theorem dump_decodes_escaped :
    let request : Request := ⟨.tokens .json, ["-", ""], none, false⟩
    let run := (request.runWith .ready [] (Text.utf8 ['"', '\\', '\t', '"', 'é'])).run
      (Journal.ofSink .endless)
    Source.ofArguments ["-", ""] none = .ok [.stdin, .file ""] ∧
      Record.ofDump? run.2.sink.written.toList =
        some [⟨"<stdin>", 1, 0, 4, .string, ['"', '\\', '\t', '"']⟩,
          ⟨"<stdin>", 1, 4, 6, .stray, ['é']⟩] := by
  intro request run
  have accepted : Source.ofArguments ["-", ""] none = .ok [.stdin, .file ""] := rfl
  have decoded := @dump_decodes request _ .ready rfl accepted rfl []
    (Text.utf8 ['"', '\\', '\t', '"', 'é'])
  refine ⟨accepted, decoded.2.trans ?_⟩
  have held : Source.content [] (Text.utf8 ['"', '\\', '\t', '"', 'é']) .stdin =
      .ok ['"', '\\', '\t', '"', 'é'] := by
    simp [Source.content, Source.read, StateT.run, Text.ofUtf8?_utf8]
  have lost (input : Bytes) : (Source.content [] input (.file "")).toOption = none := rfl
  rw [Record.ofSources, List.filterMap_cons, held, List.filterMap_cons, lost]
  decide +kernel

end Request

end QueryInk

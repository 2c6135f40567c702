import Mathlib.Data.List.Forall2
import QueryInk.Proofs.Document.Segments
import QueryInk.Run.Command

/-!
# The commands agree

Checking, highlighting and dumping go through a document each in its own way, but
all three see the tokens in their places (`Document.placed`). A dump has to read
its own style labels back to tell an error.
-/

namespace QueryInk
open Text

/-- The styles of error tokens. -/
def errorStyles : List String := ["string error", "number error", "error"]

theorem Kind.style_mem_errorStyles (kind : Kind) :
    kind.style ∈ errorStyles ↔ kind.isError = true := by
  cases kind <;> decide

theorem Kind.ofStyle?_style (kind : Kind) : ofStyle? kind.style = some kind := by
  cases kind <;> decide

namespace Document

/-- The tokens of a document, each with the line it is in. -/
def placed (text : Text) : List (Line × Token) :=
  (lines text).flatMap fun line => line.tokens.map (line, ·)

def placedErrors (text : Text) : List (Line × Token) :=
  (placed text).filter (·.2.kind.isError)

theorem mem_placed {text : Text} {place : Line × Token} :
    place ∈ placed text ↔ place.1 ∈ lines text ∧ place.2 ∈ place.1.tokens := by
  obtain ⟨line, token⟩ := place
  simp [placed]

theorem mem_placedErrors {text : Text} {place : Line × Token} :
    place ∈ placedErrors text ↔
      place.1 ∈ lines text ∧ place.2 ∈ place.1.tokens ∧ place.2.kind.isError = true := by
  rw [placedErrors, List.mem_filter, mem_placed, and_assoc]

theorem placedErrors_eq (text : Text) :
    placedErrors text = (lines text).flatMap fun line => line.errors.map (line, ·) := by
  rw [placedErrors, placed, List.filter_flatMap]
  refine List.flatMap_congr fun line _ => ?_
  rw [List.filter_map]
  rfl

/-- A document has one line of each number. -/
theorem line_unique {text : Text} {line other : Line} (h : line ∈ lines text)
    (h' : other ∈ lines text) (same : line.number = other.number) : line = other := by
  obtain ⟨t, found, eq⟩ := mem_lines.1 h
  obtain ⟨u, found', eq'⟩ := mem_lines.1 h'
  have index : line.index = other.index := Nat.succ.inj same
  rw [index, found', Option.some.injEq] at found
  rw [eq, eq', index, found]

end Document

/-! ## What each command makes of the tokens -/

theorem Findings.tokens_eq (text : Text) :
    (ofText text).tokens = (Document.placed text).length := by
  simp [ofText, Document.placed, List.length_flatMap]

theorem Findings.diagnostics_eq (text : Text) :
    (ofText text).diagnostics =
      (Document.placedErrors text).map fun (line, token) => Diagnostic.ofToken line token := by
  rw [Document.placedErrors_eq, List.map_flatMap]
  refine List.flatMap_congr fun line _ => ?_
  rw [List.map_map]
  rfl

theorem Highlight.tokens_eq (theme : Theme) (color : Bool) (text : Text) :
    (render theme color text).tokens = (Document.placed text).length := by
  simp [render, Document.placed, List.length_flatMap]

theorem Highlight.errors_eq (theme : Theme) (color : Bool) (text : Text) :
    (render theme color text).errors = (Document.placedErrors text).length := by
  simp [render, Document.placedErrors_eq, List.length_flatMap]

namespace Record

def ofPlace (source : String) (place : Line × Token) : Record :=
  ofLexeme source place.1 (place.2, place.2.text place.1.text)

theorem ofText_eq (source : String) (text : Text) :
    ofText source text = (Document.placed text).map (ofPlace source) := by
  rw [Document.placed, List.map_flatMap]
  refine List.flatMap_congr fun line _ => ?_
  rw [Line.lexemes, List.map_map, List.map_map]
  rfl

theorem length_ofText (source : String) (text : Text) :
    (ofText source text).length = (Document.placed text).length := by
  rw [ofText_eq, List.length_map]

/-- A test of the style that tells errors picks the error tokens. -/
theorem filter_ofText (source : String) (text : Text) {test : Record → Bool}
    (tells : ∀ place, test (ofPlace source place) = place.2.kind.isError) :
    (ofText source text).filter test =
      (Document.placedErrors text).map (ofPlace source) := by
  rw [ofText_eq, List.filter_map, Document.placedErrors]
  congr 2
  funext place
  exact tells place

theorem styled_errors (source : String) (text : Text) :
    (ofText source text).filter (·.style ∈ errorStyles) =
      (Document.placedErrors text).map (ofPlace source) := by
  refine filter_ofText source text fun place => ?_
  rw [Bool.eq_iff_iff, decide_eq_true_iff]
  exact place.2.kind.style_mem_errorStyles

theorem errors_ofText (source : String) (text : Text) :
    errors (ofText source text) = (Document.placedErrors text).map (ofPlace source) := by
  refine filter_ofText source text fun place => ?_
  have read : Kind.ofStyle? (ofPlace source place).style = some place.2.kind :=
    place.2.kind.ofStyle?_style
  rw [read]
  rfl

end Record

/-- Whatever the command, its summary counts the tokens and the errors among them. -/
theorem Command.counts_eq (command : Command) (several : Bool) (source : Source) (text : Text) :
    (command.output several source text).counts =
      ⟨(Document.placed text).length, (Document.placedErrors text).length⟩ := by
  cases command with
  | check => simp [output, Findings.tokens_eq, Findings.diagnostics_eq]
  | highlight theme color => simp [output, Highlight.tokens_eq, Highlight.errors_eq]
  | tokens format =>
    cases format <;> simp [output, Record.errors_ofText, Record.length_ofText]

/-! ## Where a diagnostic points -/

/-- A diagnostic and a record are of the same token of the document. -/
structure Diagnostic.Reports (document : Text) (d : Diagnostic) (r : Record) : Prop where
  line : d.line = r.line
  style : d.kind.style = r.style
  text : d.text = r.text
  /-- The column is one more than the number of characters that the line has before `start`. -/
  column : ∃ i line before after, r.line = i + 1 ∧ (Text.lines document)[i]? = some line ∧
    line = before ++ after ∧ r.start = width before ∧ d.column = before.length + 1

theorem Text.column_width (before after : Text) :
    column (before ++ after) (width before) = before.length + 1 := by
  rw [column, columnFrom_eq, takeBytes_width, Nat.add_comm]

theorem Diagnostic.reports_place {text : Text} (source : String) {place : Line × Token}
    (h : place ∈ Document.placedErrors text) :
    Reports text (ofToken place.1 place.2) (Record.ofPlace source place) := by
  obtain ⟨line, token⟩ := place
  obtain ⟨listed, member, -⟩ := Document.mem_placedErrors.1 h
  obtain ⟨before, c, rest, cut, -, rfl⟩ := Document.cut_of_token listed member
  refine ⟨rfl, rfl, rfl, line.index, line.text, before, c :: rest, rfl,
    Document.text_of_mem_lines listed, cut, rfl, ?_⟩
  have start : ((Cut.first c rest).token (width before)).span.start = width before := rfl
  rw [ofToken, start, cut, column_width]

theorem Diagnostic.exists_line {text : Text} {line : Line} (h : line ∈ Document.lines text) :
    line.hasErrors = true ↔ ∃ d ∈ (Findings.ofText text).diagnostics, d.line = line.number := by
  rw [Findings.diagnostics_eq]
  simp only [Line.hasErrors, List.any_eq_true, List.mem_map]
  constructor
  · rintro ⟨token, member, bad⟩
    exact ⟨_, ⟨(line, token), Document.mem_placedErrors.2 ⟨h, member, bad⟩, rfl⟩, rfl⟩
  · rintro ⟨_, ⟨place, found, rfl⟩, same⟩
    obtain ⟨listed, member, bad⟩ := Document.mem_placedErrors.1 found
    obtain rfl := Document.line_unique listed h same
    exact ⟨place.2, member, bad⟩

/-- What the commands say of a document. -/
structure CommandsAgree (text : Text) (source : String) (theme : Theme) (color : Bool) : Prop where
  tokens :
    (Findings.ofText text).tokens = (Highlight.render theme color text).tokens ∧
      (Highlight.render theme color text).tokens = (Record.ofText source text).length
  diagnostics :
    List.Forall₂ (Diagnostic.Reports text) (Findings.ofText text).diagnostics
      ((Record.ofText source text).filter (·.style ∈ errorStyles))
  errors :
    (Findings.ofText text).diagnostics.length = (Highlight.render theme color text).errors ∧
      (Highlight.render theme color text).errors =
        (Record.errors (Record.ofText source text)).length
  lines : ∀ line ∈ Document.lines text, line.hasErrors = true ↔
    ∃ d ∈ (Findings.ofText text).diagnostics, d.line = line.number
  summaries : ∀ (one other : Command) (several : Bool) (input : Source),
    (one.output several input text).counts = (other.output several input text).counts

theorem commands_agree (text : Text) (source : String) (theme : Theme) (color : Bool) :
    CommandsAgree text source theme color where
  tokens := by
    rw [Findings.tokens_eq, Highlight.tokens_eq, Record.length_ofText]
    exact ⟨rfl, rfl⟩
  diagnostics := by
    rw [Findings.diagnostics_eq, Record.styled_errors, List.forall₂_map_left_iff,
      List.forall₂_map_right_iff, List.forall₂_same]
    intro place h
    exact Diagnostic.reports_place source h
  errors := by
    rw [Findings.diagnostics_eq, Highlight.errors_eq, Record.errors_ofText, List.length_map,
      List.length_map]
    exact ⟨rfl, rfl⟩
  lines := fun _ => Diagnostic.exists_line
  summaries := by
    intro one other several input
    rw [Command.counts_eq, Command.counts_eq]

end QueryInk

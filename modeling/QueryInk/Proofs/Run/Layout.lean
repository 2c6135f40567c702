import QueryInk.Proofs.Document.Pointing
import QueryInk.Proofs.Text.Halves
import QueryInk.Run.Command

namespace QueryInk

namespace Text

theorem notMem_toDigits (c : Char) (other : c.isDigit = false) (n : Nat) :
    c ∉ Nat.toDigits 10 n := by
  intro member
  have digit := Nat.isDigit_of_mem_toDigits (by decide) (by decide) member
  rw [other] at digit
  cases digit

/-- A line feed is the only character with its byte. -/
theorem count_feed_utf8 (t : Text) : (utf8 t).count 10 = t.count '\n' := by
  induction t with
  | nil => rfl
  | cons c t ih =>
    rw [utf8, List.flatMap_cons, List.count_append, ← utf8, ih, List.count_cons, Nat.add_comm]
    congr 1
    by_cases feed : c = '\n'
    · subst feed
      rfl
    · have absent : 10 ∉ String.utf8EncodeChar c := by
        intro member
        exact feed (encode_of_ascii member (by decide)).2.symm
      simp [List.count_eq_zero.2 absent, feed]

end Text

/-- A string is shown as it is. -/
theorem toString_self (s : String) : toString s = s := rfl

namespace Kind

/-- The words that reports have for the kinds. -/
def labels : List (Kind × String) :=
  [(operator, "operator"), (keyword, "keyword"), (string, "string"), (badString, "string error"),
   (number, "number"), (badNumber, "number error"), (var, "variable"), (builtin, "builtin"),
   (field, "attribute"), (stray, "error")]

def label (kind : Kind) : String := (labels.lookup kind).getD ""

theorem label_eq (kind : Kind) : kind.label = kind.style := by
  cases kind <;> rfl

theorem notMem_style {c : Char} (control : c = '\t' ∨ c = '\n') (kind : Kind) :
    c ∉ kind.style.toList := by
  rcases control with rfl | rfl <;> cases kind <;> decide

end Kind

namespace Source

/-- What reports call a source. -/
def label : Source → String
  | file path => path
  | stdin => "<stdin>"
  | expr _ => "<expr>"

theorem label_eq (source : Source) : source.label = source.name := by
  cases source <;> rfl

end Source

/-- The line about a diagnostic in the source of that name. -/
def Diagnostic.report (name : String) (d : Diagnostic) : String :=
  s!"{name}:{d.line}:{d.column}: {d.kind.label} '{String.ofList d.text}'\n"

/-- The line about a record, with the name of its source if there are several. -/
def Record.report (several : Bool) (r : Record) : String :=
  let place := s!"{r.line}:{r.start}-{r.stop}"
  let place := if several then s!"{r.source}:{place}" else place
  s!"{place}\t{r.kind.label}\t{String.ofList r.text}\n"

theorem Diagnostic.toList_report (source : Source) (d : Diagnostic) :
    (d.report source.label).toList = Command.diagnosticLine source d := by
  simp [report, Command.diagnosticLine, Command.endLine, display, Source.label_eq, Kind.label_eq,
    toString_self]

theorem Record.toList_report (several : Bool) (r : Record) :
    (r.report several).toList = Command.endLine (r.display several) := by
  cases several <;>
    simp [report, Command.endLine, display, location, style, Kind.label_eq, toString_self]

/-- The line about a diagnostic is one line. -/
theorem Diagnostic.report_line {name : String} {text : Text} {d : Diagnostic}
    (named : '\n' ∉ name.toList) (found : d ∈ (Findings.ofText text).diagnostics) :
    ∃ line, (d.report name).toList = line ++ ['\n'] ∧ '\n' ∉ line := by
  refine ⟨name.toList ++ ':' :: d.display, by simp [report, display, Kind.label_eq, toString_self], ?_⟩
  have digits := Text.notMem_toDigits '\n' rfl
  have label := d.kind.notMem_style (.inr rfl)
  simp [display, named, digits, label, (points found).unended]

end QueryInk

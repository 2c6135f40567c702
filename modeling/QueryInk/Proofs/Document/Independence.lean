import QueryInk.Diagnostic
import QueryInk.Highlight
import QueryInk.Proofs.Text.Lines
import QueryInk.Record

namespace QueryInk

/-! ## Cutting a text at a line feed -/

namespace Text

theorem lines_append (a b : Text) : lines (a ++ '\n' :: b) = lines (a ++ ['\n']) ++ lines b := by
  induction a using lineInduction with
  | unended a inside => rw [lines_ended inside, lines_ended inside, lines_nil]; rfl
  | ended line rest inside ih =>
    rw [List.append_assoc, List.append_assoc, List.cons_append, List.cons_append,
      lines_ended inside, lines_ended inside, ih, List.cons_append]

/-- Every line feed ends one line, the last one too. -/
theorem length_lines_feed (a : Text) : (lines (a ++ ['\n'])).length = 1 + a.count '\n' := by
  induction a using lineInduction with
  | unended a inside =>
    rw [lines_ended inside, lines_nil, List.count_eq_zero.2 inside]
    rfl
  | ended line rest inside ih =>
    rw [List.append_assoc, List.cons_append, lines_ended inside, List.length_cons, ih,
      List.count_append, List.count_eq_zero.2 inside, List.count_cons_self]
    omega

end Text

/-! ## Moving down -/

/-- The line when `n` lines stand before its document. -/
def Line.moved (n : Nat) (line : Line) : Line := { line with index := line.index + n }

def Record.moved (n : Nat) (r : Record) : Record := { r with line := r.line + n }

def Diagnostic.moved (n : Nat) (d : Diagnostic) : Diagnostic := { d with line := d.line + n }

theorem Line.moved_number (n : Nat) (line : Line) : (line.moved n).number = line.number + n :=
  Nat.add_right_comm line.index n 1

namespace Document

theorem lines_append (a b : Text) :
    lines (a ++ '\n' :: b) =
      lines (a ++ ['\n']) ++ (lines b).map (Line.moved (1 + a.count '\n')) := by
  rw [lines, Text.lines_append, List.mapIdx_append, Text.length_lines_feed]
  congr 1
  rw [lines, List.mapIdx_eq_zipIdx_map, List.mapIdx_eq_zipIdx_map, List.map_map]
  rfl

/-- A report that goes through the lines one by one is made up of the reports on the two parts. -/
theorem flatMap_append {α : Type} {report below : Line → List α} {a : Text}
    (moved : ∀ line, report (line.moved (1 + a.count '\n')) = below line) (b : Text) :
    (lines (a ++ '\n' :: b)).flatMap report =
      (lines (a ++ ['\n'])).flatMap report ++ (lines b).flatMap below := by
  rw [lines_append, List.flatMap_append, List.flatMap_map]
  congr 1
  exact List.flatMap_congr fun line _ => moved line

end Document

/-! ## The reports -/

theorem Record.ofText_append (source : String) (a b : Text) :
    ofText source (a ++ '\n' :: b) =
      ofText source (a ++ ['\n']) ++ (ofText source b).map (moved (1 + a.count '\n')) := by
  rw [ofText, Document.flatMap_append (fun _ => rfl), ofText, ofText, List.map_flatMap]
  congr 1
  apply List.flatMap_congr
  intro line _
  rw [List.map_map]
  apply List.map_congr_left
  intro lexeme _
  simp only [ofLexeme, Line.moved_number]
  rfl

theorem Findings.diagnostics_append (a b : Text) :
    (ofText (a ++ '\n' :: b)).diagnostics =
      (ofText (a ++ ['\n'])).diagnostics ++
        (ofText b).diagnostics.map (Diagnostic.moved (1 + a.count '\n')) := by
  dsimp only [ofText]
  rw [Document.flatMap_append (fun _ => rfl), List.map_flatMap]
  congr 1
  apply List.flatMap_congr
  intro line _
  rw [Diagnostic.ofLine, Diagnostic.ofLine, List.map_map]
  apply List.map_congr_left
  intro token _
  rw [Diagnostic.ofToken, Line.moved_number]
  rfl

theorem Findings.tokens_append (a b : Text) :
    (ofText (a ++ '\n' :: b)).tokens = (ofText (a ++ ['\n'])).tokens + (ofText b).tokens := by
  dsimp only [ofText]
  rw [Document.flatMap_append (fun _ => rfl), List.length_append]
  rfl

namespace Highlight

variable (theme : Theme) (color : Bool) (a b : Text)

theorem text_append :
    (render theme color (a ++ '\n' :: b)).text =
      (render theme color (a ++ ['\n'])).text ++ (render theme color b).text :=
  Document.flatMap_append (fun _ => rfl) b

theorem tokens_append :
    (render theme color (a ++ '\n' :: b)).tokens =
      (render theme color (a ++ ['\n'])).tokens + (render theme color b).tokens :=
  Findings.tokens_append a b

theorem errors_append :
    (render theme color (a ++ '\n' :: b)).errors =
      (render theme color (a ++ ['\n'])).errors + (render theme color b).errors := by
  dsimp only [render]
  rw [Document.flatMap_append (fun _ => rfl), List.length_append]
  rfl

end Highlight

/-- Whatever stands on the two sides of a line feed, the reports on the whole are those on the part
it ends and those on the rest, moved down by as many lines as it and the line feeds before it
end. -/
theorem lines_independent (a b : Text) (source : String) (theme : Theme) (color : Bool) :
    let n := 1 + a.count '\n'
    let above := a ++ ['\n']
    let whole := a ++ '\n' :: b
    Record.ofText source whole =
        Record.ofText source above ++ (Record.ofText source b).map (Record.moved n) ∧
      ((Findings.ofText whole).diagnostics =
          (Findings.ofText above).diagnostics ++
            (Findings.ofText b).diagnostics.map (Diagnostic.moved n) ∧
        (Findings.ofText whole).tokens =
          (Findings.ofText above).tokens + (Findings.ofText b).tokens) ∧
      Highlight.render theme color whole =
        let first := Highlight.render theme color above
        let rest := Highlight.render theme color b
        ⟨first.text ++ rest.text, first.tokens + rest.tokens, first.errors + rest.errors⟩ := by
  intro n above whole
  refine ⟨Record.ofText_append source a b, ⟨Findings.diagnostics_append a b,
    Findings.tokens_append a b⟩, ?_⟩
  rw [Rendered.mk.injEq]
  exact ⟨Highlight.text_append theme color a b, Highlight.tokens_append theme color a b,
    Highlight.errors_append theme color a b⟩

end QueryInk

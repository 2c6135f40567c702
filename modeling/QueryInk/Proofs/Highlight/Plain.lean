import QueryInk.Diagnostic
import QueryInk.Proofs.Highlight.Erasure
import QueryInk.Proofs.Text.Terminators
import QueryInk.Record

/-!
# Documents without colour

Against the text it was read from, a document without colour has only its
terminators changed (`render_mends`). Written out again, it may still lose the
carriage returns that its lines end in, for they now stand before a line feed
(`lines_written`).
-/

namespace QueryInk
open Text

theorem Document.map_text_lines (text : Text) : (lines text).map (·.text) = Text.lines text := by
  rw [lines, List.mapIdx_eq_zipIdx_map, List.map_map]
  exact List.zipIdx_map_fst 0 _

namespace Highlight

theorem renderLine_plain (theme : Theme) {text : Text} {line : Line}
    (listed : line ∈ Document.lines text) : renderLine theme false line = line.text ++ ['\n'] := by
  have whole : line.segments.flatMap (·.text) = line.text := by
    rw [Line.segments, Document.tokens_of_mem_lines listed]
    exact Line.segmentsFrom_flatten 0 line.text
  have same : renderSegment theme false = (·.text) := funext (renderSegment_plain theme)
  rw [renderLine, same, whole]

theorem render_plain (theme : Theme) (text : Text) :
    (render theme false text).text = unlines (Text.lines text) := by
  rw [← Document.map_text_lines, unlines, List.flatMap_map]
  exact List.flatMap_congr fun line listed => renderLine_plain theme listed

/-- Without colour a document is written as it stands, with a line feed alone for each terminator
and one after the last line. -/
theorem render_mends (theme : Theme) (text : Text) :
    (render theme false text).text = mendTerminators text := by
  rw [render_plain, unlines_lines]

/-- Of two carriage returns before a line feed the first stays, and so does one at the end. -/
example : mendTerminators "a\r\r\n\r\nb\r".toList = "a\r\n\nb\r\n".toList := by decide

/-! ## A second pass -/

theorem lines_written (theme : Theme) (text : Text) :
    Text.lines (render theme false text).text = (Text.lines text).map stripReturn := by
  rw [render_plain]
  exact lines_unlines fun _ => unended_of_mem_lines

theorem unended_of_mem_written {text line : Text} (h : line ∈ (Text.lines text).map stripReturn) :
    '\n' ∉ line := by
  obtain ⟨read, listed, rfl⟩ := List.mem_map.1 h
  intro member
  exact unended_of_mem_lines listed (mem_of_mem_stripReturn member)

/-- The second pass writes the same text just if it reads the same lines. -/
theorem written_again_iff (theme : Theme) (text : Text) :
    (render theme false (render theme false text).text).text = (render theme false text).text ↔
      (Text.lines text).map stripReturn = Text.lines text := by
  rw [render_plain theme (render theme false text).text, lines_written, render_plain]
  constructor
  · exact unlines_injective (fun _ => unended_of_mem_written) (fun _ => unended_of_mem_lines)
  · exact congrArg unlines

/-- Highlighting again without colour changes nothing just if no line of the document ends in a
carriage return, and then what was written has the records and findings of the document. -/
theorem render_fixed (theme : Theme) (text : Text) :
    let written := (render theme false text).text
    ((render theme false written).text = written ↔
      ∀ line ∈ Document.lines text, line.text.getLast? ≠ some '\r') ∧
    ((render theme false written).text = written →
      (∀ source, Record.ofText source written = Record.ofText source text) ∧
        Findings.ofText written = Findings.ofText text) := by
  intro written
  constructor
  · rw [written_again_iff, map_stripReturn_iff, ← Document.map_text_lines, List.forall_mem_map]
  · intro fixed
    have same : Document.lines written = Document.lines text := by
      rw [Document.lines, lines_written, (written_again_iff theme text).1 fixed]
      rfl
    constructor
    · intro source
      rw [Record.ofText, same]
      rfl
    · rw [Findings.ofText, same]
      rfl

/-- Terminators of both sorts, and an error in the line that has none. -/
theorem render_fixed_mixed :
    let text := "a \r b\r\n\n1e999 'é".toList
    let written := (render Theme.default false text).text
    (∀ line ∈ Document.lines text, line.text.getLast? ≠ some '\r') ∧
      (render Theme.default false written).text = written ∧
      (∀ source, Record.ofText source written = Record.ofText source text) ∧
      Findings.ofText written = Findings.ofText text := by
  intro text written
  obtain ⟨iff, reports⟩ := render_fixed Theme.default text
  have kept : ∀ line ∈ Document.lines text, line.text.getLast? ≠ some '\r' := by decide +kernel
  have fixed := iff.2 kept
  exact ⟨kept, fixed, reports fixed⟩

end Highlight

end QueryInk

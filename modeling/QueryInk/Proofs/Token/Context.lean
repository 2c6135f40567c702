import QueryInk.Proofs.Token.Rules
import QueryInk.Proofs.Token.Run

namespace QueryInk.Token
open Text

/-- A lexeme by itself is one token. -/
theorem stream_taken {c : Char} (t : Text) (solid : isBlank c = false) :
    stream (Cut.first c t).taken = [(Cut.first c t).token 0] := by
  obtain ⟨body, taken, again⟩ := Cut.first_recut c t ends_nil fun _ => rfl
  rw [List.append_nil] at again
  rw [taken, stream, streamFrom_solid body solid, again, streamFrom_of_blank blank_nil]
  simp [Cut.token, taken]

theorem relex_cut (before : Text) {c : Char} (t : Text) (solid : isBlank c = false) :
    ∃ lexeme, ((Cut.first c t).token (width before)).span.text? (before ++ c :: t) = some lexeme ∧
      stream lexeme = [⟨(Cut.first c t).kind, 0, width lexeme⟩] := by
  refine ⟨(Cut.first c t).taken, text?_of_cut before c t, ?_⟩
  rw [stream_taken t solid, Cut.token, Nat.zero_add]

/-- The lexeme of a token, read as a line of its own, is that one token. -/
theorem relex_scanned (line : Text) (token : Token)
    (h : (∃ offset, scan line offset = some token) ∨ token ∈ stream line) :
    ∃ lexeme, token.span.text? line = some lexeme ∧
      stream lexeme = [⟨token.kind, 0, width lexeme⟩] := by
  rcases h with ⟨offset, h⟩ | h
  · obtain ⟨before, c, rest, rfl, solid, rfl⟩ := cut_of_scan h
    exact relex_cut before rest solid
  · obtain ⟨before, c, rest, rfl, solid, rfl⟩ := cut_of_mem h
    rw [Nat.zero_add]
    exact relex_cut before rest solid

/-- The offset falls inside the first character, and the exponent is not complete. -/
theorem relex_scanned_number :
    scan "é 1.5e+x".toList 1 = some ⟨.number, 3, 6⟩ ∧
      ∃ lexeme, Span.text? ⟨3, 6⟩ "é 1.5e+x".toList = some lexeme ∧
        stream lexeme = [⟨.number, 0, width lexeme⟩] := by
  have found : scan "é 1.5e+x".toList 1 = some ⟨.number, 3, 6⟩ := by decide
  exact ⟨found, relex_scanned _ _ (.inl ⟨1, found⟩)⟩

end QueryInk.Token

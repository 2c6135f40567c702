import QueryInk.Proofs.Document.Agreement
import QueryInk.Proofs.Text.Terminators
import QueryInk.Proofs.Token.Grammar
import QueryInk.Proofs.Token.Lookahead
import QueryInk.Proofs.Token.Tiling

/-!
# Diagnostics point at what they name

A token stands at byte offsets, a diagnostic at a line and a column. Every
diagnostic comes from a cut of a line (`Diagnostic.cut_of_mem`): its column counts
the characters before the cut, and its text is the lexeme after it. Columns grow
with the boundaries that they are of (`Text.column_lt`).
-/

namespace QueryInk
open Text

namespace Document

theorem lines_ordered (text : Text) : (lines text).Pairwise (·.index < ·.index) := by
  have indices : ((lines text).map (·.index)).Pairwise (· < ·) := by
    rw [lines, List.mapIdx_eq_zipIdx_map, List.map_map]
    exact List.zipIdx_map_snd 0 (Text.lines text) ▸ List.pairwise_lt_range' 1
  exact List.pairwise_map.1 indices

theorem tile_of_token {text : Text} {line : Line} {token : Token} (listed : line ∈ lines text)
    (member : token ∈ line.tokens) : Token.Tile line.text token := by
  obtain ⟨before, c, rest, cut, solid, rfl⟩ := cut_of_token listed member
  rw [cut]
  exact Token.tile_of_cut before rest solid

end Document

/-! ## Reading with every offset checked -/

/-- The lexemes of a line, where each token lies between two boundaries. -/
def Line.lexemes? (line : Line) : Option (List (Token × Text)) :=
  line.tokens.mapM fun token => (token.span.text? line.text).map (token, ·)

/-- The diagnostics of a line, where its lexemes can be cut out and the offsets of the errors
among them have a column. -/
def Diagnostic.ofLine? (line : Line) : Option (List Diagnostic) := do
  let lexemes ← line.lexemes?
  (lexemes.filter (·.1.kind.isError)).mapM fun (token, text) =>
    (column? line.text token.span.start).map (⟨line.number, ·, token.kind, text⟩)

/-- The findings, where no line is cut anywhere but at a boundary. -/
def Findings.ofText? (text : Text) : Option Findings := do
  let diagnostics ← (Document.lines text).mapM Diagnostic.ofLine?
  return ⟨((Document.lines text).flatMap (·.tokens)).length, diagnostics.flatten⟩

theorem mapM_eq_some {α β : Type} {f : α → Option β} {g : α → β} {l : List α}
    (h : ∀ a ∈ l, f a = some (g a)) : l.mapM f = some (l.map g) := by
  induction l with
  | nil => rfl
  | cons a l ih =>
    rw [List.forall_mem_cons] at h
    simp [h.1, ih h.2]

theorem Line.lexemes?_eq {text : Text} {line : Line} (listed : line ∈ Document.lines text) :
    line.lexemes? = some line.lexemes := by
  apply mapM_eq_some
  intro token member
  obtain ⟨before, c, rest, cut, -, rfl⟩ := Document.cut_of_token listed member
  rw [cut, Token.text?_of_cut, Token.text_of_cut]
  rfl

theorem Diagnostic.ofLine?_eq {text : Text} {line : Line} (listed : line ∈ Document.lines text) :
    ofLine? line = some (ofLine line) := by
  have errors : line.lexemes.filter (·.1.kind.isError) =
      line.errors.map fun token => (token, token.text line.text) := by
    rw [Line.lexemes, List.filter_map]
    rfl
  have each : ∀ token ∈ line.errors, (column? line.text token.span.start).map
      (⟨line.number, ·, token.kind, token.text line.text⟩) = some (ofToken line token) := by
    intro token member
    have tile := Document.tile_of_token listed (List.mem_of_mem_filter member)
    rw [column?, if_pos tile.boundaries.1]
    rfl
  simp only [ofLine?, Line.lexemes?_eq listed, Option.bind_eq_bind, Option.bind_some, errors,
    List.mapM_map]
  exact mapM_eq_some each

theorem Findings.ofText?_eq (text : Text) : ofText? text = some (ofText text) := by
  have lines : (Document.lines text).mapM Diagnostic.ofLine? =
      some ((Document.lines text).map Diagnostic.ofLine) := by
    apply mapM_eq_some
    intro line listed
    exact Diagnostic.ofLine?_eq listed
  simp only [ofText?, lines, ofText, List.flatMap_def]
  rfl

/-! ## The order of diagnostics -/

/-- Columns grow with the boundaries that they are of. -/
theorem Text.column_lt {t : Text} {m n : Nat} (first : isBoundary t m = true)
    (second : isBoundary t n = true) (order : m < n) : column t m < column t n := by
  obtain ⟨before, after, rfl, rfl⟩ := isBoundary_iff.1 first
  obtain ⟨further, rest, same, rfl⟩ := isBoundary_iff.1 second
  obtain ⟨between, rfl⟩ := prefix_of_width_le same order.le
  have nonempty : between ≠ [] := by
    rintro rfl
    simp at order
  have := List.length_pos_iff.2 nonempty
  rw [column_width, same, column_width, List.length_append]
  omega

namespace Diagnostic

/-- Line and column. -/
def place (d : Diagnostic) : Nat × Nat := (d.line, d.column)

/-- The one comes before the other in the document. -/
def Before (one other : Diagnostic) : Prop := Prod.Lex (· < ·) (· < ·) one.place other.place

theorem line_of_mem {line : Line} {d : Diagnostic} (h : d ∈ ofLine line) :
    d.line = line.number := by
  obtain ⟨token, -, rfl⟩ := List.mem_map.1 h
  rfl

theorem ofLine_ordered {text : Text} {line : Line} (listed : line ∈ Document.lines text) :
    (ofLine line).Pairwise Before := by
  have tokens : line.tokens.Pairwise fun one other =>
      Before (ofToken line one) (ofToken line other) := by
    have ordered := Token.streamFrom_ordered 0 line.text
    rw [← Token.stream, ← Document.tokens_of_mem_lines listed] at ordered
    apply ordered.imp_of_mem
    intro one other one_listed other_listed apart
    have one_tile := Document.tile_of_token listed one_listed
    have other_tile := Document.tile_of_token listed other_listed
    have start : one.span.start < other.span.start := lt_of_lt_of_le one_tile.nonempty apart
    exact .right _ (column_lt one_tile.boundaries.1 other_tile.boundaries.1 start)
  exact List.pairwise_map.2 (tokens.filter _)

end Diagnostic

theorem Findings.diagnostics_ordered (text : Text) :
    (ofText text).diagnostics.Pairwise Diagnostic.Before := by
  rw [ofText, List.pairwise_flatMap]
  constructor
  · intro line listed
    exact Diagnostic.ofLine_ordered listed
  · apply (Document.lines_ordered text).imp
    intro upper lower above one one_listed other other_listed
    apply Prod.Lex.left
    rw [Diagnostic.line_of_mem one_listed, Diagnostic.line_of_mem other_listed]
    exact Nat.succ_lt_succ above

/-! ## Open strings -/

theorem Token.last_of_badString {offset : Nat} {t : Text} {token : Token}
    (h : token ∈ streamFrom offset t) (bad : token.kind = .badString) :
    (streamFrom offset t).getLast? = some token := by
  induction t using lexemeInduction generalizing offset with
  | blank t blank => simp [streamFrom_of_blank blank] at h
  | lexeme gap c t blank solid ih =>
    rw [streamFrom_lexeme t blank solid] at h ⊢
    rcases List.mem_cons.1 h with rfl | later
    · rw [Cut.rest_of_badString bad, streamFrom_of_blank blank_nil]
      rfl
    · rw [List.getLast?_cons_of_ne_nil (List.ne_nil_of_mem later)]
      exact ih later

/-- The diagnostics that carry the number of a line are those of that line. -/
theorem Findings.diagnostics_of_line {text : Text} {line : Line}
    (listed : line ∈ Document.lines text) :
    (ofText text).diagnostics.filter (·.line = line.number) = Diagnostic.ofLine line := by
  have elsewhere {others : List Line} (h : ∀ other ∈ others, other.index ≠ line.index) :
      (others.flatMap Diagnostic.ofLine).filter (·.line = line.number) = [] := by
    rw [List.filter_eq_nil_iff]
    intro d member
    obtain ⟨other, member, found⟩ := List.mem_flatMap.1 member
    rw [Diagnostic.line_of_mem found, decide_eq_true_iff]
    exact fun same => h other member (Nat.succ.inj same)
  have here : (Diagnostic.ofLine line).filter (·.line = line.number) = Diagnostic.ofLine line := by
    rw [List.filter_eq_self]
    intro d member
    exact decide_eq_true (Diagnostic.line_of_mem member)
  -- the lines above have smaller numbers and those below have larger ones
  obtain ⟨above, below, eq⟩ := List.append_of_mem listed
  have ordered := Document.lines_ordered text
  rw [eq, List.pairwise_append, List.pairwise_cons] at ordered
  obtain ⟨-, ⟨after, -⟩, before⟩ := ordered
  have upper := elsewhere fun other member => (before other member line List.mem_cons_self).ne
  have lower := elsewhere fun other member => (after other member).ne'
  simp only [ofText, eq, List.flatMap_append, List.flatMap_cons, List.filter_append, upper, here,
    lower, List.nil_append, List.append_nil]

namespace Diagnostic

theorem last_of_badString {text : Text} {line : Line} {token : Token}
    (listed : line ∈ Document.lines text) (member : token ∈ line.tokens)
    (bad : token.kind = .badString) : (ofLine line).getLast? = some (ofToken line token) := by
  have tokens := Document.tokens_of_mem_lines listed
  have last : line.tokens.getLast? = some token := by
    rw [tokens] at member ⊢
    exact Token.last_of_badString member bad
  obtain ⟨earlier, eq⟩ := List.getLast?_eq_some_iff.1 last
  have error : token.kind.isError = true := by rw [bad]; rfl
  simp [ofLine, Line.errors, eq, error]

end Diagnostic

/-! ## What a diagnostic points at -/

theorem Token.Lexeme.length_of_stray {t w : Text} (h : Lexeme t .stray w) : w.length = 1 := by
  cases h with
  | stray => rfl

namespace Diagnostic

/-- What is said of a document at a place can be found there. -/
structure Points (text : Text) (d : Diagnostic) : Prop where
  line : 1 ≤ d.line ∧ d.line ≤ (Text.lines text).length
  column : 1 ≤ d.column
  nonempty : d.text ≠ []
  unended : '\n' ∉ d.text
  /-- After the characters before the column, the line goes on with the text, and an open string
  takes all of it. -/
  found : ∃ t, lineAt? text (d.line - 1) = some t ∧ d.text <+: t.drop (d.column - 1) ∧
    (d.kind = .badString → d.text = t.drop (d.column - 1))
  last : d.kind = .badString →
    ((Findings.ofText text).diagnostics.filter (·.line = d.line)).getLast? = some d
  single : d.kind = .stray → d.text.length = 1

theorem ofToken_cut {line : Line} {before rest : Text} {c : Char}
    (cut : line.text = before ++ c :: rest) :
    ofToken line ((Cut.first c rest).token (width before)) =
      ⟨line.number, before.length + 1, (Cut.first c rest).kind, (Cut.first c rest).taken⟩ := by
  have start : ((Cut.first c rest).token (width before)).span.start = width before := rfl
  rw [ofToken, start, cut, column_width, Token.text_of_cut]
  rfl

/-- Every diagnostic is of a cut of a line. -/
theorem cut_of_mem {text : Text} {d : Diagnostic} (h : d ∈ (Findings.ofText text).diagnostics) :
    ∃ line before c rest, line ∈ Document.lines text ∧
      (Cut.first c rest).token (width before) ∈ line.tokens ∧ line.text = before ++ c :: rest ∧
      isBlank c = false ∧
      d = ⟨line.number, before.length + 1, (Cut.first c rest).kind, (Cut.first c rest).taken⟩ := by
  obtain ⟨line, listed, error⟩ := List.mem_flatMap.1 h
  obtain ⟨token, found, rfl⟩ := List.mem_map.1 error
  have member := List.mem_of_mem_filter found
  obtain ⟨before, c, rest, cut, solid, rfl⟩ := Document.cut_of_token listed member
  exact ⟨line, before, c, rest, listed, member, cut, solid, ofToken_cut cut⟩

theorem points {text : Text} {d : Diagnostic} (h : d ∈ (Findings.ofText text).diagnostics) :
    Points text d := by
  obtain ⟨line, before, c, rest, listed, member, cut, solid, rfl⟩ := cut_of_mem h
  have here := Document.text_of_mem_lines listed
  have whole := Cut.first_append c rest
  have left : line.text.drop before.length = c :: rest := by
    rw [cut]
    exact List.drop_left
  constructor
  case line =>
    obtain ⟨inside, -⟩ := List.getElem?_eq_some_iff.1 here
    exact ⟨Nat.le_add_left 1 line.index, inside⟩
  case column => exact Nat.le_add_left 1 before.length
  case nonempty => exact Cut.first_ne_nil c rest
  case unended =>
    intro feed
    have inside : '\n' ∈ line.text := by
      rw [cut, ← whole]
      simp [feed]
    exact unended_of_mem_lines (List.mem_of_getElem? here) inside
  case found =>
    refine ⟨line.text, lineAt?_of_lines here, ?_, ?_⟩
    · exact left ▸ ⟨(Cut.first c rest).rest, whole⟩
    · intro bad
      rw [Cut.rest_of_badString bad, List.append_nil] at whole
      exact whole.trans left.symm
  case last =>
    intro bad
    have last := last_of_badString listed member bad
    rw [ofToken_cut cut] at last
    rw [← Findings.diagnostics_of_line listed] at last
    exact last
  case single =>
    intro (stray : (Cut.first c rest).kind = .stray)
    have lexeme := Token.lexeme_first rest solid
    rw [stray] at lexeme
    exact lexeme.length_of_stray

end Diagnostic

/-- Diagnostics are found without a cut inside a character, they come in the order of the places
that they name, and each place has what is said of it. -/
theorem Findings.diagnostics_point (text : Text) :
    ofText? text = some (ofText text) ∧
      (ofText text).diagnostics.Pairwise Diagnostic.Before ∧
      ∀ d ∈ (ofText text).diagnostics, Diagnostic.Points text d := by
  refine ⟨ofText?_eq text, diagnostics_ordered text, ?_⟩
  intro d member
  exact Diagnostic.points member

/-- Columns count characters: the string starts five bytes into its line. -/
theorem Findings.diagnostics_point_open :
    let text := "a\r\né€'b\r".toList
    let d : Diagnostic := ⟨2, 3, .badString, "'b\r".toList⟩
    d ∈ (ofText text).diagnostics ∧ Diagnostic.Points text d := by
  intro text d
  have member : d ∈ (ofText text).diagnostics := by decide +kernel
  exact ⟨member, (diagnostics_point text).2.2 d member⟩

end QueryInk

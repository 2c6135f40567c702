import QueryInk.Proofs.Token.Run

namespace QueryInk
open Text

def Span.holds (s : Span) (byte : Nat) : Bool := s.start ≤ byte && byte < s.stop

theorem Span.holds_iff {s : Span} {byte : Nat} :
    s.holds byte = true ↔ s.start ≤ byte ∧ byte < s.stop := by
  simp [holds]

namespace Token

/-- What lies between tokens: before the first, between neighbours and after the last. -/
def gaps (start stop : Nat) : List Token → List Span
  | [] => [⟨start, stop⟩]
  | token :: tokens => ⟨start, token.span.start⟩ :: gaps token.span.stop stop tokens

structure Tile (line : Text) (token : Token) : Prop where
  nonempty : token.span.start < token.span.stop
  inside : token.span.stop ≤ width line
  boundaries :
    isBoundary line token.span.start = true ∧ isBoundary line token.span.stop = true
  solid : ∃ c more, token.text line = c :: more ∧ isBlank c = false

structure Tiling (line : Text) (tokens : List Token) : Prop where
  tiles : ∀ token ∈ tokens, Tile line token
  ordered : tokens.Pairwise fun earlier later => earlier.span.stop ≤ later.span.start
  gaps_blank : ∀ gap ∈ gaps 0 (width line) tokens, ∃ t, gap.text? line = some t ∧ Blank t
  /-- A character that is not blank is in one token, with all its bytes. -/
  covered : ∀ before c after, line = before ++ c :: after → isBlank c = false →
    ∀ byte, width before ≤ byte → byte < width before + c.utf8Size →
      tokens.countP (·.span.holds byte) = 1
  few : tokens.length ≤ line.countP (!isBlank ·)

theorem tile_of_cut (before rest : Text) {c : Char} (solid : isBlank c = false) :
    Tile (before ++ c :: rest) ((Cut.first c rest).token (width before)) := by
  have whole := Cut.first_append c rest
  have total := congrArg width whole
  rw [width_append] at total
  refine ⟨?_, ?_, ⟨isBoundary_width before _, ?_⟩, ?_⟩
  · have taken := width_pos (Cut.first_ne_nil c rest)
    simp only [Cut.token]
    omega
  · simp only [Cut.token, width_append]
    omega
  · have stop := isBoundary_width (before ++ (Cut.first c rest).taken) (Cut.first c rest).rest
    rwa [List.append_assoc, whole, width_append] at stop
  · obtain ⟨body, taken, -⟩ := Cut.first_taken c rest
    rw [text_of_cut]
    exact ⟨c, body, taken, solid⟩

theorem offset_le_start {offset : Nat} {t : Text} {token : Token}
    (h : token ∈ streamFrom offset t) : offset ≤ token.span.start := by
  obtain ⟨before, c, rest, -, -, rfl⟩ := cut_of_mem h
  exact Nat.le_add_right _ _

theorem streamFrom_ordered (offset : Nat) (t : Text) :
    (streamFrom offset t).Pairwise fun earlier later =>
      earlier.span.stop ≤ later.span.start := by
  induction t using lexemeInduction generalizing offset with
  | blank t blank => simp [streamFrom_of_blank blank]
  | lexeme gap c t blank solid ih =>
    rw [streamFrom_lexeme t blank solid]
    exact List.pairwise_cons.2 ⟨fun later h => offset_le_start h, ih _⟩

theorem streamFrom_gaps (before after : Text) :
    ∀ gap ∈ gaps (width before) (width (before ++ after)) (streamFrom (width before) after),
      ∃ t, gap.text? (before ++ after) = some t ∧ Blank t := by
  induction after using lexemeInduction generalizing before with
  | blank t blank =>
    intro gap h
    simp only [streamFrom_of_blank blank, gaps, List.mem_singleton] at h
    subst h
    have all := slice?_width before t []
    rw [List.append_nil, ← width_append] at all
    exact ⟨t, all, blank⟩
  | lexeme lead c t blank solid ih =>
    intro gap h
    rw [streamFrom_lexeme t blank solid, gaps, List.mem_cons] at h
    rcases h with rfl | later
    · exact ⟨lead, slice?_width before lead (c :: t), blank⟩
    · have rest := ih (before ++ lead ++ (Cut.first c t).taken) gap
      simp only [List.append_assoc, Cut.first_append, width_append, ← Nat.add_assoc] at rest
      simp only [width_append, ← Nat.add_assoc] at later
      exact rest later

/-- A character of two texts in a row is in the first or in the second. -/
theorem append_eq_append_cons {s t before after : Text} {c : Char}
    (h : s ++ t = before ++ c :: after) :
    (∃ more, s = before ++ c :: more) ∨ ∃ more, before = s ++ more ∧ t = more ++ c :: after := by
  rcases List.append_eq_append_iff.1 h with ⟨more, eq, left⟩ | ⟨more, eq, left⟩
  · exact .inr ⟨more, eq, left⟩
  · cases more with
    | nil => exact .inr ⟨[], by simpa using eq.symm, by simpa using left.symm⟩
    | cons d more =>
      obtain ⟨rfl, -⟩ := List.cons.inj left
      exact .inl ⟨more, eq⟩

/-- A byte of the first lexeme is in its token alone. -/
theorem countP_first {offset byte : Nat} {gap : Text} {c : Char} (t : Text) (blank : Blank gap)
    (solid : isBlank c = false) (low : offset + width gap ≤ byte)
    (high : byte < offset + width gap + width (Cut.first c t).taken) :
    (streamFrom offset (gap ++ c :: t)).countP (·.span.holds byte) = 1 := by
  have here : ((Cut.first c t).token (offset + width gap)).span.holds byte = true :=
    Span.holds_iff.2 ⟨low, high⟩
  have later : ∀ token ∈ streamFrom
      (offset + width gap + width (Cut.first c t).taken) (Cut.first c t).rest,
      ¬ token.span.holds byte = true := by
    intro token member
    have := offset_le_start member
    rw [Span.holds_iff]
    omega
  rw [streamFrom_lexeme t blank solid, List.countP_cons, if_pos here,
    List.countP_eq_zero.2 later]

theorem countP_later {offset byte : Nat} {gap : Text} {c : Char} (t : Text) (blank : Blank gap)
    (solid : isBlank c = false)
    (past : offset + width gap + width (Cut.first c t).taken ≤ byte) :
    (streamFrom offset (gap ++ c :: t)).countP (·.span.holds byte) =
      (streamFrom (offset + width gap + width (Cut.first c t).taken)
        (Cut.first c t).rest).countP (·.span.holds byte) := by
  have outside : ¬ ((Cut.first c t).token (offset + width gap)).span.holds byte = true := by
    simp only [Span.holds_iff, Cut.token]
    omega
  rw [streamFrom_lexeme t blank solid, List.countP_cons, if_neg outside, Nat.add_zero]

theorem streamFrom_covers {offset : Nat} {t before after : Text} {c : Char}
    (h : t = before ++ c :: after) (solid : isBlank c = false) {byte : Nat}
    (low : offset + width before ≤ byte) (high : byte < offset + width before + c.utf8Size) :
    (streamFrom offset t).countP (·.span.holds byte) = 1 := by
  induction t using lexemeInduction generalizing offset before with
  | blank t blank =>
    have := blank c (by simp [h])
    simp_all
  | lexeme gap d t blank solid' ih =>
    -- the character is not in the gap, so it is in the lexeme or after it
    rcases append_eq_append_cons h with ⟨more, inGap⟩ | ⟨lead, rfl, left⟩
    · have := blank c (by simp [inGap])
      simp_all
    · rw [← Cut.first_append] at left
      rw [width_append] at low high
      rcases append_eq_append_cons left with ⟨more, inLexeme⟩ | ⟨more, rfl, later⟩
      · have size := congrArg width inLexeme
        rw [width_append, width_cons] at size
        exact countP_first t blank solid' (by omega) (by omega)
      · rw [width_append] at low high
        rw [countP_later t blank solid' (by omega)]
        exact ih later (by omega) (by omega)

theorem streamFrom_length (offset : Nat) (t : Text) :
    (streamFrom offset t).length ≤ t.countP (!isBlank ·) := by
  induction t using lexemeInduction generalizing offset with
  | blank t blank => simp [streamFrom_of_blank blank]
  | lexeme gap c t blank solid ih =>
    have later := ih (offset + width gap + width (Cut.first c t).taken)
    obtain ⟨body, -, left⟩ := Cut.first_taken c t
    have whole := congrArg (List.countP (!isBlank ·)) left
    rw [List.countP_append] at whole
    rw [streamFrom_lexeme t blank solid]
    simp only [List.length_cons, List.countP_append, List.countP_cons, solid, Bool.not_false,
      ↓reduceIte]
    omega

/-- The tokens of a line, which are those that a scanner reads one after the other, tile it. -/
theorem stream_tiling (line : Text) :
    Tiling line (stream line) ∧ (Scanner.ofLine line).toList = stream line := by
  refine ⟨⟨?_, streamFrom_ordered 0 line, streamFrom_gaps [] line, ?_, streamFrom_length 0 line⟩,
    Scanner.toList_ofLine line⟩
  · intro token h
    obtain ⟨before, c, rest, rfl, solid, rfl⟩ := cut_of_mem h
    simpa using tile_of_cut before rest solid
  · intro before c after cut solid byte low high
    exact streamFrom_covers cut solid (by omega) (by omega)

end Token

end QueryInk

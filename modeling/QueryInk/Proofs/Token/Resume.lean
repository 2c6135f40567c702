import QueryInk.Proofs.Token.Tiling

namespace QueryInk
open Text

/-- The span of the same bytes with `n` bytes put in front. -/
def Span.shift (n : Nat) (s : Span) : Span := ⟨n + s.start, n + s.stop⟩

/-- The byte lies in the span, and not at its start. -/
def Span.straddles (s : Span) (byte : Nat) : Bool := s.start < byte && byte < s.stop

theorem Span.straddles_eq_false {s : Span} {byte : Nat} :
    s.straddles byte = false ↔ byte ≤ s.start ∨ s.stop ≤ byte := by
  simp [straddles, Decidable.imp_iff_not_or]

namespace Token

def shift (n : Nat) (token : Token) : Token := ⟨token.kind, token.span.shift n⟩

theorem shift_token (n start : Nat) (cut : Cut) :
    shift n (cut.token start) = cut.token (n + start) := by
  simp [shift, Span.shift, Cut.token, Nat.add_assoc]

theorem streamFrom_shift (n offset : Nat) (t : Text) :
    streamFrom (n + offset) t = (streamFrom offset t).map (shift n) := by
  induction t using lexemeInduction generalizing offset with
  | blank t blank => simp [streamFrom_of_blank blank]
  | lexeme gap c t blank solid ih =>
    have later := ih (offset + width gap + width (Cut.first c t).taken)
    rw [streamFrom_lexeme t blank solid, streamFrom_lexeme t blank solid, List.map_cons,
      shift_token, ← later]
    simp only [Nat.add_assoc]

/-- Blanks in front of a text only move its tokens. -/
theorem streamFrom_skip {gap : Text} (blank : Blank gap) (offset : Nat) (t : Text) :
    streamFrom offset (gap ++ t) = streamFrom (offset + width gap) t := by
  have both {more : Text} (h : Blank more) : Blank (gap ++ more) :=
    List.forall_mem_append.2 ⟨blank, h⟩
  induction t using lexemeInduction with
  | blank t h => rw [streamFrom_of_blank h, streamFrom_of_blank (both h)]
  | lexeme more c t h solid =>
    rw [← List.append_assoc, streamFrom_lexeme t (both h) solid, streamFrom_lexeme t h solid,
      width_append, ← Nat.add_assoc]

theorem filter_streamFrom {position offset : Nat} (t : Text) (h : position ≤ offset) :
    (streamFrom offset t).filter (position ≤ ·.span.start) = streamFrom offset t := by
  refine List.filter_eq_self.2 fun token member => ?_
  have := offset_le_start member
  exact decide_eq_true (by omega)

/-- From a cut that runs through no token on, the tokens are the later ones of the line. -/
theorem streamFrom_resume {offset : Nat} {t before after : Text} (cut : t = before ++ after)
    (whole : ∀ token ∈ streamFrom offset t,
      token.span.straddles (offset + width before) = false) :
    streamFrom (offset + width before) after =
      (streamFrom offset t).filter (offset + width before ≤ ·.span.start) := by
  induction t using lexemeInduction generalizing offset before with
  | blank t blank =>
    have blank_after : Blank after := fun c member => blank c (by simp [cut, member])
    simp [streamFrom_of_blank blank, streamFrom_of_blank blank_after]
  | lexeme gap c t blank solid ih =>
    have tokens := streamFrom_lexeme t blank solid offset
    have whole_first := whole _ (by rw [tokens]; exact List.mem_cons_self)
    rcases Span.straddles_eq_false.1 whole_first with early | late
    · -- the cut is in the gap: nothing before it is in a token
      simp only [Cut.token] at early
      obtain ⟨more, rfl⟩ := prefix_of_width_le cut.symm (by omega)
      have blank_before : Blank before := fun d member => blank d (by simp [member])
      rw [cut, streamFrom_skip blank_before, filter_streamFrom after (Nat.le_refl _)]
    · -- the cut is after the first lexeme
      simp only [Cut.token] at late
      rw [← Cut.first_append, ← List.append_assoc] at cut
      have long : width (gap ++ (Cut.first c t).taken) ≤ width before := by
        rw [width_append]
        omega
      obtain ⟨more, rfl⟩ := prefix_of_width_le cut long
      rw [List.append_assoc _ more, List.append_cancel_left_eq] at cut
      have moved : offset + width (gap ++ (Cut.first c t).taken ++ more) =
          offset + width gap + width (Cut.first c t).taken + width more := by
        simp only [width_append, Nat.add_assoc]
      have passed : ¬ offset + width (gap ++ (Cut.first c t).taken ++ more) ≤
          offset + width gap := by
        have := width_pos (Cut.first_ne_nil c t)
        omega
      rw [tokens, List.filter_cons_of_neg (by simpa [Cut.token] using passed), moved]
      apply ih cut
      intro token member
      rw [← moved]
      exact whole token (by rw [tokens]; exact List.mem_cons_of_mem _ member)

/-! ## A host that keeps an offset -/

theorem scan_progress {line : Text} {offset : Nat} {token : Token}
    (h : scan line offset = some token) :
    offset < token.span.stop ∧ token.span.stop ≤ width line := by
  have inside : offset ≤ width line := by
    by_contra past
    rw [scan_eq_head?, dropBytes_eq_nil (by omega), streamFrom_of_blank blank_nil] at h
    cases h
  have member : token ∈ streamFrom (snap line offset) (dropBytes offset line) :=
    List.mem_of_head? (scan_eq_head? line offset ▸ h)
  have forward := le_snap inside
  have after := offset_le_start member
  obtain ⟨before, c, rest, rfl, solid, rfl⟩ := cut_of_scan h
  have tile := tile_of_cut before rest solid
  exact ⟨by have := tile.nonempty; omega, tile.inside⟩

/-- Scans, and scans again from the end of each token found. -/
def rescan (line : Text) (offset : Nat) : List Token :=
  match _h : scan line offset with
  | none => []
  | some token => token :: rescan line token.span.stop
termination_by width line - offset
decreasing_by
  have := scan_progress _h
  omega

theorem rescan_of_none {line : Text} {offset : Nat} (h : scan line offset = none) :
    rescan line offset = [] := by
  rw [rescan]
  split
  · rfl
  · simp_all

theorem rescan_of_some {line : Text} {offset : Nat} {token : Token}
    (h : scan line offset = some token) :
    rescan line offset = token :: rescan line token.span.stop := by
  rw [rescan]
  split
  · simp_all
  · next found =>
    obtain rfl := Option.some.inj (h.symm.trans found)
    rfl

theorem rescan_eq (line : Text) (offset : Nat) :
    rescan line offset = streamFrom (snap line offset) (dropBytes offset line) := by
  obtain ⟨before, cut, snapped⟩ := exists_snap line offset
  rw [snapped]
  -- the induction is on what is left, so the cut and the offset that led to it vary with it
  generalize left : dropBytes offset line = after at cut
  induction after using lexemeInduction generalizing before offset with
  | blank after blank =>
    have found := scan_eq_head? line offset
    rw [left, streamFrom_of_blank blank] at found
    rw [rescan_of_none found, streamFrom_of_blank blank]
  | lexeme gap c t blank solid ih =>
    have found := scan_eq_head? line offset
    rw [left, snapped, streamFrom_lexeme t blank solid] at found
    rw [rescan_of_some found, streamFrom_lexeme t blank solid]
    have next : line = (before ++ gap ++ (Cut.first c t).taken) ++ (Cut.first c t).rest := by
      rw [cut, List.append_assoc, Cut.first_append, List.append_assoc]
    have stop : ((Cut.first c t).token (width before + width gap)).span.stop =
        width (before ++ gap ++ (Cut.first c t).taken) := by
      simp only [Cut.token, width_append]
    have later := ih _ _ (by rw [next, snap_width]) (by rw [next, dropBytes_width]) next
    rw [stop, later, width_append, width_append]

/-- A scanner started at any offset, inside a character or past the end too, reads what is left
of the line as a line of its own. Where it starts in no token, it reads the tokens that the line
has from there on. Scanning again from the end of each token reads the same. -/
theorem resume_anywhere (line : Text) (offset : Nat) :
    let position := (Cursor.ofOffset line offset).position
    (∃ rest, slice? line position (width line) = some rest ∧
      (Scanner.ofOffset line offset).toList = (stream rest).map (shift position)) ∧
    ((∀ token ∈ stream line, token.span.straddles position = false) →
      (Scanner.ofOffset line offset).toList =
        (stream line).filter (position ≤ ·.span.start)) ∧
    rescan line offset = (Scanner.ofOffset line offset).toList ∧
    rescan line 0 = stream line := by
  intro position
  obtain ⟨before, cut, snapped, splits⟩ := Cursor.splits_ofOffset line offset
  have here : position = width before := snapped
  have read : (Scanner.ofOffset line offset).toList =
      streamFrom (width before) (dropBytes offset line) :=
    Scanner.toList_splits splits
  rw [here, read]
  refine ⟨⟨dropBytes offset line, ?_, ?_⟩, ?_, ?_, ?_⟩
  · have rest := slice?_width before (dropBytes offset line) []
    rwa [← width_append, List.append_nil, ← cut] at rest
  · exact streamFrom_shift (width before) 0 (dropBytes offset line)
  · intro whole
    rw [← Nat.zero_add (width before)] at whole
    have later := streamFrom_resume cut whole
    rwa [Nat.zero_add] at later
  · rw [rescan_eq, snapped]
  · rw [rescan_eq]
    simp [stream, snap]

/-- The offset falls inside the wide blank between two words. -/
theorem resume_anywhere_gap :
    (Cursor.ofOffset "ab\u3000cd".toList 3).position = 5 ∧
      (∀ token ∈ stream "ab\u3000cd".toList, token.span.straddles 5 = false) ∧
      (Scanner.ofOffset "ab\u3000cd".toList 3).toList =
        (stream "ab\u3000cd".toList).filter (5 ≤ ·.span.start) := by
  have whole : ∀ token ∈ stream "ab\u3000cd".toList, token.span.straddles 5 = false := by
    decide +kernel
  exact ⟨by decide, whole, (resume_anywhere "ab\u3000cd".toList 3).2.1 whole⟩

end Token

end QueryInk

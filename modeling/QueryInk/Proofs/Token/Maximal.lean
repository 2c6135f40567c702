import QueryInk.Proofs.Token.Rules
import QueryInk.Proofs.Token.Run

/-!
# No token could be longer

With less of the text to look at, the rules never take more (`first_length_le`). If
a longer piece of the line were one token, that token would be cut off the piece
whole, so off the line the rules would have to take at least as much.
-/

namespace QueryInk

namespace Text

theorem Longest.length_le {L : Language Char} {s t v w : Text} (front : s <+: t)
    (short : Longest L s v) (long : Longest L t w) : v.length ≤ w.length :=
  long.longest v (short.front.trans front) short.mem

theorem takeWhile_length_le (p : Char → Bool) {s t : Text} (front : s <+: t) :
    (s.takeWhile p).length ≤ (t.takeWhile p).length :=
  (longest_takeWhile p s).length_le front (longest_takeWhile p t)

end Text

namespace Cut
open Text Vocabulary

/-- A quoted text that is still open in a part of the text is not closed earlier in the whole. -/
theorem delimited_length_le (q : Char) {s t : Text} (front : s <+: t) :
    (delimited q (q :: s)).taken.length ≤ (delimited q (q :: t)).taken.length := by
  by_cases closed : q ∈ s
  · obtain ⟨body, rest, rfl, inside⟩ := List.eq_append_cons_of_mem closed
    obtain ⟨more, rfl⟩ := front
    rw [List.append_assoc, List.cons_append, delimited_closed q rest inside,
      delimited_closed q (rest ++ more) inside]
  · rw [delimited_open q closed]
    by_cases later : q ∈ t
    · obtain ⟨body, rest, rfl, inside⟩ := List.eq_append_cons_of_mem later
      have stop : ∀ d ∈ (q :: rest).head?, (d != q) = false := by simp
      have short := takeWhile_length_le (· != q) front
      rw [List.takeWhile_eq_self_iff.2 (bne_of_notMem closed),
        takeWhile_run (bne_of_notMem inside) stop] at short
      rw [delimited_closed q rest inside]
      simp only [List.length_cons, List.length_append]
      omega
    · rw [delimited_open q later]
      simpa using front.length_le

/-- Of a single character no more than that is taken. -/
theorem first_nil_length_le (c : Char) (t : Text) :
    (first c []).taken.length ≤ (first c t).taken.length := by
  have whole := congrArg List.length (first_append c [])
  have some_taken := List.length_pos_iff.2 (first_ne_nil c t)
  rw [List.length_append, List.length_singleton] at whole
  omega

theorem sigil_length_le (d : Char) {s t : Text} (front : s <+: t) :
    (sigil ('$' :: d :: s)).taken.length ≤ (sigil ('$' :: d :: t)).taken.length := by
  by_cases double : d = '$'
  · subst double
    exact Nat.le_refl 2
  · have single : ∀ u, '$' ∉ (d :: u).head? := by
      intro u
      simpa using double
    have longer : d :: s <+: d :: t := List.cons_prefix_cons.2 ⟨rfl, front⟩
    rw [sigil_single (single s), sigil_single (single t)]
    exact Nat.succ_le_succ (takeWhile_length_le isNameChar longer)

/-- With less of the text to look at, no rule takes more. -/
theorem first_length_le (c : Char) {s t : Text} (front : s <+: t) :
    (first c s).taken.length ≤ (first c t).taken.length := by
  have longer : c :: s <+: c :: t := List.cons_prefix_cons.2 ⟨rfl, front⟩
  cases opening c t with
  | pair op rest listed whole =>
    obtain ⟨a, b, two, -⟩ := pairs_shape listed
    rw [whole, two] at longer
    cases s with
    | nil => exact first_nil_length_le c t
    | cons d s =>
      -- both characters of the operator are there
      obtain ⟨rfl, rfl, -⟩ : c = a ∧ d = b ∧ s <+: rest := by simpa using longer
      have again : c :: d :: s = op.toList ++ s := by rw [two]; rfl
      rw [first_pair listed whole, first_pair listed again]
  | symbol listed alone =>
    have alone' : ∀ op ∈ pairs, ¬ op.toList <+: c :: s := by
      intro op member early
      exact alone op member (early.trans longer)
    rw [first_symbol listed alone', first_symbol listed alone]
  | quote listed =>
    rw [first_quote s listed, first_quote t listed]
    exact delimited_length_le c front
  | digit listed =>
    obtain ⟨l, rest, read, cut⟩ := number_digit t listed
    obtain ⟨l', rest', read', cut'⟩ := number_digit s listed
    rw [first_digit s listed, first_digit t listed, cut, cut']
    exact (Decimal.read?_longest read').length_le longer (Decimal.read?_longest read)
  | sigil listed =>
    subst listed
    cases s with
    | nil => exact first_nil_length_le '$' t
    | cons d s =>
      obtain ⟨more, rfl⟩ := front
      rw [first_sigil, first_sigil]
      exact sigil_length_le d (List.prefix_append s more)
  | letter listed =>
    rw [first_letter s listed, first_letter t listed, word_eq, word_eq]
    exact takeWhile_length_le isWordChar longer
  | stray unlisted =>
    rw [first_stray s unlisted, first_stray t unlisted]

end Cut

namespace Token
open Text

/-- A text that is one token is taken whole. -/
theorem taken_of_single {c : Char} {t : Text} {kind : Kind} (solid : isBlank c = false)
    (single : stream (c :: t) = [⟨kind, 0, width (c :: t)⟩]) : (Cut.first c t).taken = c :: t := by
  rw [stream, streamFrom_solid t solid, List.cons.injEq] at single
  obtain ⟨first, -⟩ := single
  have stop := congrArg (·.span.stop) first
  simp only [Cut.token] at stop
  have whole := Cut.first_append c t
  have rest : (Cut.first c t).rest = [] := by
    by_contra some_rest
    have left := width_pos some_rest
    rw [← whole, width_append] at stop
    omega
  rwa [rest, List.append_nil] at whole

/-- No piece of the line that starts with a token and reaches further is one token. -/
theorem munches_most {line : Text} {offset stop : Nat} {token : Token}
    (found : scan line offset = some token) (boundary : isBoundary line stop = true)
    (beyond : token.span.stop < stop) :
    ∃ piece, slice? line token.span.start stop = some piece ∧
      ∀ kind, stream piece ≠ [⟨kind, 0, stop - token.span.start⟩] := by
  obtain ⟨before, c, rest, rfl, solid, rfl⟩ := cut_of_scan found
  obtain ⟨front, after, cut, rfl⟩ := isBoundary_iff.1 boundary
  simp only [Cut.token] at beyond ⊢
  obtain ⟨piece, rfl⟩ := prefix_of_width_le cut (by omega)
  rw [List.append_assoc, List.append_cancel_left_eq] at cut
  rw [width_append] at beyond ⊢
  refine ⟨piece, by rw [cut, slice?_width], ?_⟩
  intro kind single
  have some_piece : piece ≠ [] := by
    rintro rfl
    rw [width_nil] at beyond
    omega
  obtain ⟨d, body, rfl⟩ := List.exists_cons_of_ne_nil some_piece
  rw [List.cons_append, List.cons.injEq] at cut
  obtain ⟨rfl, rfl⟩ := cut
  rw [Nat.add_sub_cancel_left] at single
  -- the piece is taken whole, so the token takes at least as much
  have short := Cut.first_length_le c (List.prefix_append body after)
  rw [taken_of_single solid single] at short
  have inside : c :: body <+: (Cut.first c (body ++ after)).taken :=
    List.prefix_of_prefix_length_le ⟨after, rfl⟩ ⟨_, Cut.first_append c _⟩ short
  have reach := width_mono inside
  omega

/-- The whole exponent is not there, and without it the mark and the sign are not part of the
number. -/
theorem munches_most_exponent :
    scan "é 1.5e+x".toList 1 = some ⟨.number, 3, 6⟩ ∧ isBoundary "é 1.5e+x".toList 8 = true ∧
      ∃ piece, slice? "é 1.5e+x".toList 3 8 = some piece ∧
        ∀ kind, stream piece ≠ [⟨kind, 0, 5⟩] := by
  have found : scan "é 1.5e+x".toList 1 = some ⟨.number, 3, 6⟩ := by decide
  have boundary : isBoundary "é 1.5e+x".toList 8 = true := by decide
  exact ⟨found, boundary, munches_most found boundary (by decide)⟩

end Token

end QueryInk

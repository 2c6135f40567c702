import Mathlib.Order.Bounds.Basic
import QueryInk.Proofs.Text.Longest
import QueryInk.Proofs.Text.Offsets

/-!
# A cursor as two texts

A cursor keeps an offset in bytes. To its caller it is a pair of texts, what has
been passed and what is left, and `Halves.Step` says what each call does to such a
pair. The step of the simulation is `perform_simulated`, the run `run_simulated`.
Two calls need an argument of their own: looking ahead reads a byte where all bytes
up to it are ASCII (`peek_eq`), and moving by a number of characters is a loop
(`splits_advanceBy`).
-/

namespace QueryInk

namespace Text

theorem length_utf8 (t : Text) : (utf8 t).length = width t := by
  induction t with
  | nil => rfl
  | cons c t ih =>
    rw [utf8] at ih ⊢
    rw [List.flatMap_cons, List.length_append, String.length_utf8EncodeChar, ih, width_cons]

/-- No byte of a wide character is ASCII. -/
theorem ascii_of_mem {c : Char} {b : UInt8} (member : b ∈ String.utf8EncodeChar c)
    (ascii : b < 0x80) : c.val.toNat ≤ 127 ∧ b = UInt8.ofNat c.val.toNat := by
  have small : b.toNat < 128 := UInt8.lt_iff_toNat_lt.1 ascii
  simp only [String.utf8EncodeChar] at member
  split at member
  · next narrow => exact ⟨narrow, List.mem_singleton.1 member⟩
  · -- two, three or four bytes, each of them 128 or more
    repeat' split at member
    all_goals
      simp only [List.mem_cons, List.not_mem_nil, or_false, ← UInt8.toNat_inj,
        UInt8.toNat_ofNat'] at member
      omega

/-- A character that has an ASCII byte is that byte. -/
theorem encode_of_ascii {c : Char} {b : UInt8} (member : b ∈ String.utf8EncodeChar c)
    (ascii : b < 0x80) : String.utf8EncodeChar c = [b] ∧ Char.ofNat b.toNat = c := by
  obtain ⟨narrow, rfl⟩ := ascii_of_mem member ascii
  constructor
  · simp only [String.utf8EncodeChar, if_pos narrow]
  · rw [UInt8.toNat_ofNat', Nat.mod_eq_of_lt (by omega)]
    exact Char.ofNat_toNat c

/-- Where all bytes up to an index are ASCII, the byte there is the character there. -/
theorem getElem?_of_ascii {t : Text} {n : Nat} {b : UInt8}
    (ascii : ∀ a ∈ (utf8 t).take (n + 1), a < 0x80) (found : (utf8 t)[n]? = some b) :
    t[n]? = some (Char.ofNat b.toNat) := by
  induction t generalizing n with
  | nil => simp [utf8] at found
  | cons c t ih =>
    have bytes : utf8 (c :: t) = String.utf8EncodeChar c ++ utf8 t := List.flatMap_cons
    obtain ⟨a, more, encoded⟩ := List.exists_cons_of_ne_nil (String.utf8EncodeChar_ne_nil (c := c))
    have head : a ∈ String.utf8EncodeChar c := by simp [encoded]
    have first : a < 0x80 := ascii a (by simp [bytes, encoded])
    obtain ⟨single, same⟩ := encode_of_ascii head first
    rw [bytes, single, List.singleton_append] at ascii found
    cases n with
    | zero =>
      obtain rfl := Option.some.inj found
      rw [same]
      rfl
    | succ n =>
      rw [List.getElem?_cons_succ] at found ⊢
      rw [List.take_succ_cons, List.forall_mem_cons] at ascii
      exact ih ascii.2 found

/-- A cut at or after an offset leaves no more than is left after the offset. -/
theorem width_le_dropBytes {before : Text} {n : Nat} (after : Text) (early : n ≤ width before) :
    width after ≤ width (dropBytes n (before ++ after)) := by
  induction before generalizing n with
  | nil =>
    obtain rfl : n = 0 := by simpa using early
    simp
  | cons c before ih =>
    cases n with
    | zero => rw [dropBytes_zero, width_append]; omega
    | succ n =>
      rw [width_cons] at early
      exact ih (by omega)

/-- An offset snaps to the first cut that does not lie before it, or before the end. -/
theorem snap_isLeast (t : Text) (n : Nat) :
    IsLeast {m | (∃ before after, t = before ++ after ∧ m = width before) ∧ min n (width t) ≤ m}
      (snap t n) := by
  obtain ⟨before, cut, snapped⟩ := exists_snap t n
  constructor
  · refine ⟨⟨before, _, cut, snapped⟩, ?_⟩
    by_cases inside : n ≤ width t
    · have := le_snap inside
      omega
    · have past : dropBytes n t = [] := dropBytes_eq_nil (by omega)
      simp [snap, past]
  · rintro _ ⟨⟨front, rest, rfl, rfl⟩, reached⟩
    rw [width_append] at reached
    have whole := width_append front rest
    by_cases early : n ≤ width front
    · have left := width_le_dropBytes rest early
      unfold snap
      omega
    · unfold snap
      omega

end Text

namespace Cursor
open Computability Text

/-- A call on a cursor, with its arguments. -/
inductive Call
  | remaining
  | atEnd
  | current
  | peek (n : Nat)
  | sliceFrom (start : Nat)
  | advance
  | advanceBy (n : Nat)
  | eatChar (expected : Char)
  | eatText (expected : Text)
  | eatWhile (p : Char → Bool)
  | eatThrough (delimiter : Char)

inductive Answer
  | nothing
  | flag (found : Bool)
  | char (c : Char)
  | count (n : Nat)
  | text (t : Text)
  /-- There is no such slice. -/
  | refused
  deriving DecidableEq, Repr

def Answer.ofSlice : Option Text → Answer
  | some t => text t
  | none => refused

def perform (c : Cursor) : Call → Answer × Cursor
  | .remaining => (.text c.remaining, c)
  | .atEnd => (.flag c.atEnd, c)
  | .current => (.char c.current, c)
  | .peek n => (.char (c.peek n), c)
  | .sliceFrom start => (.ofSlice (c.sliceFrom? start), c)
  | .advance => (.nothing, c.advance)
  | .advanceBy n => (.nothing, c.advanceBy n)
  | .eatChar expected => (c.eatChar expected).map .flag id
  | .eatText expected => (c.eatText expected).map .flag id
  | .eatWhile p => (c.eatWhile p).map .count id
  | .eatThrough delimiter => (c.eatThrough delimiter).map .flag id

/-- Calls one after the other, with all their answers. -/
def run (c : Cursor) : List Call → List Answer × Cursor
  | [] => ([], c)
  | call :: calls =>
    let first := c.perform call
    let later := first.2.run calls
    (first.1 :: later.1, later.2)

end Cursor

/-- What has been passed of a text and what is left of it. -/
structure Halves where
  consumed : Text
  rest : Text
  deriving DecidableEq, Repr

namespace Halves
open Computability Text Cursor

/-- Passes `n` characters, or all there are. -/
def pass (h : Halves) (n : Nat) : Halves := ⟨h.consumed ++ h.rest.take n, h.rest.drop n⟩

/-- What a call on two texts answers, and how many characters it passes. -/
inductive Step (h : Halves) : Call → Answer → Nat → Prop
  | remaining : Step h .remaining (.text h.rest) 0
  | atEnd : Step h .atEnd (.flag h.rest.isEmpty) 0
  | current : Step h .current (.char (h.rest.getD 0 '\x00')) 0
  | peek {n : Nat} : Step h (.peek n) (.char (h.rest.getD n '\x00')) 0
  | slice {start : Nat} {before between : Text} (cut : h.consumed = before ++ between)
      (here : start = width before) : Step h (.sliceFrom start) (.text between) 0
  | slice_refused {start : Nat}
      (off : ∀ before between, h.consumed = before ++ between → start ≠ width before) :
      Step h (.sliceFrom start) .refused 0
  | advance : Step h .advance .nothing 1
  | advanceBy {n : Nat} : Step h (.advanceBy n) .nothing n
  | eatChar {c : Char} {more : Text} (front : h.rest = c :: more) :
      Step h (.eatChar c) (.flag true) 1
  | eatChar_other {c : Char} (other : ∀ more, h.rest ≠ c :: more) :
      Step h (.eatChar c) (.flag false) 0
  | eatText {w : Text} (front : w <+: h.rest) : Step h (.eatText w) (.flag true) w.length
  | eatText_other {w : Text} (other : ¬ w <+: h.rest) : Step h (.eatText w) (.flag false) 0
  | eatWhile {p : Char → Bool} {w : Text} (longest : Longest (oneOf p)∗ h.rest w) :
      Step h (.eatWhile p) (.count w.length) w.length
  | eatThrough {d : Char} {body more : Text} (front : h.rest = body ++ d :: more)
      (first : d ∉ body) : Step h (.eatThrough d) (.flag true) (body.length + 1)
  | eatThrough_end {d : Char} (absent : d ∉ h.rest) :
      Step h (.eatThrough d) (.flag false) h.rest.length

/-- Calls one after the other. -/
inductive Run : Halves → List Call → List Answer → Halves → Prop
  | nil (h : Halves) : Run h [] [] h
  | cons {h last : Halves} {call : Call} {calls : List Call} {answer : Answer}
      {answers : List Answer} {n : Nat} (step : Step h call answer n)
      (later : Run (h.pass n) calls answers last) : Run h (call :: calls) (answer :: answers) last

/-- The cursor is in `source`, right between the two texts. -/
structure Places (h : Halves) (source : Text) (c : Cursor) : Prop where
  whole : h.consumed ++ h.rest = source
  source : c.source = source
  position : c.position = (utf8 h.consumed).length

@[simp] theorem pass_zero (h : Halves) : h.pass 0 = h := by
  simp [pass]

theorem pass_pass (h : Halves) (m n : Nat) : (h.pass m).pass n = h.pass (m + n) := by
  simp [pass, List.take_add]

theorem Run.whole {h last : Halves} {calls : List Call} {answers : List Answer}
    (steps : h.Run calls answers last) :
    last.consumed ++ last.rest = h.consumed ++ h.rest := by
  induction steps with
  | nil h => rfl
  | cons step later ih => rw [ih, pass, List.append_assoc, List.take_append_drop]

/-- Every call has an outcome. -/
theorem exists_step (h : Halves) (call : Call) : ∃ answer n, h.Step call answer n := by
  cases call with
  | remaining => exact ⟨_, _, .remaining⟩
  | atEnd => exact ⟨_, _, .atEnd⟩
  | current => exact ⟨_, _, .current⟩
  | peek n => exact ⟨_, _, .peek⟩
  | sliceFrom start =>
    by_cases cut : ∃ before between, h.consumed = before ++ between ∧ start = width before
    · obtain ⟨before, between, cut, here⟩ := cut
      exact ⟨_, _, .slice cut here⟩
    · refine ⟨_, _, .slice_refused ?_⟩
      intro before between split here
      exact cut ⟨before, between, split, here⟩
  | advance => exact ⟨_, _, .advance⟩
  | advanceBy n => exact ⟨_, _, .advanceBy⟩
  | eatChar c =>
    by_cases front : ∃ more, h.rest = c :: more
    · obtain ⟨more, front⟩ := front
      exact ⟨_, _, .eatChar front⟩
    · exact ⟨_, _, .eatChar_other (not_exists.1 front)⟩
  | eatText w =>
    by_cases front : w <+: h.rest
    · exact ⟨_, _, .eatText front⟩
    · exact ⟨_, _, .eatText_other front⟩
  | eatWhile p => exact ⟨_, _, .eatWhile (longest_takeWhile p h.rest)⟩
  | eatThrough d =>
    by_cases found : d ∈ h.rest
    · obtain ⟨body, more, front, first⟩ := List.eq_append_cons_of_mem found
      exact ⟨_, _, .eatThrough front first⟩
    · exact ⟨_, _, .eatThrough_end found⟩

theorem exists_run (h : Halves) (calls : List Call) : ∃ answers last, h.Run calls answers last := by
  induction calls generalizing h with
  | nil => exact ⟨[], h, .nil h⟩
  | cons call calls ih =>
    obtain ⟨answer, n, step⟩ := exists_step h call
    obtain ⟨answers, last, later⟩ := ih (h.pass n)
    exact ⟨answer :: answers, last, .cons step later⟩

end Halves

namespace Cursor
open Text

theorem peek_eq (c : Cursor) (n : Nat) : c.peek n = c.remaining[n]?.getD '\x00' := by
  unfold peek
  cases fast : c.peekAscii? n with
  | none => rfl
  | some d =>
    unfold peekAscii? at fast
    simp only at fast
    split at fast
    · next ascii =>
      obtain ⟨b, found, rfl⟩ := Option.map_eq_some_iff.1 fast
      have narrow : ∀ a ∈ (utf8 c.remaining).take (n + 1), a < 0x80 := by simpa using ascii
      rw [getElem?_of_ascii narrow found]
      rfl
    · cases fast

variable {c : Cursor} {h : Halves}

theorem atEnd_splits (split : c.Splits h.consumed h.rest) : c.atEnd = h.rest.isEmpty := by
  have whole := congrArg width split.source
  rw [width_append] at whole
  rw [Cursor.atEnd, split.position]
  cases left : h.rest with
  | nil =>
    rw [left, width_nil] at whole
    exact decide_eq_true (by omega)
  | cons d rest =>
    have some_left := width_pos (t := h.rest) (by simp [left])
    exact decide_eq_false (by omega)

/-- Skipping what comes next passes it. -/
theorem splits_skip {taken : Text} (split : c.Splits h.consumed h.rest) (front : taken <+: h.rest) :
    (c.skip taken).Splits (h.pass taken.length).consumed (h.pass taken.length).rest := by
  obtain ⟨left, front⟩ := front
  rw [← front] at split
  simpa [Halves.pass, ← front] using split.skip

theorem splits_advance (split : c.Splits h.consumed h.rest) :
    c.advance.Splits (h.pass 1).consumed (h.pass 1).rest := by
  have passed := splits_skip split (List.take_prefix 1 h.rest)
  rw [advance, split.remaining]
  cases left : h.rest with
  | nil => simpa [Halves.pass, left] using passed
  | cons d rest => simpa [Halves.pass, left] using passed

theorem splits_advanceBy (split : c.Splits h.consumed h.rest) (n : Nat) :
    (c.advanceBy n).Splits (h.pass n).consumed (h.pass n).rest := by
  induction n generalizing c h with
  | zero => simpa [advanceBy, Halves.pass] using split
  | succ n ih =>
    rw [advanceBy, atEnd_splits split]
    split
    · next empty =>
      rw [List.isEmpty_iff] at empty
      simpa [Halves.pass, empty] using split
    · rw [Nat.add_comm, ← Halves.pass_pass]
      exact ih (splits_advance split)

theorem current_front {d : Char} {more : Text} (split : c.Splits h.consumed h.rest)
    (front : h.rest = d :: more) : c.current = d := by
  rw [current, peek_eq, split.remaining, front]
  rfl

theorem eatChar_front {d : Char} {more : Text} (split : c.Splits h.consumed h.rest)
    (front : h.rest = d :: more) : c.eatChar d = (true, c.advance) := by
  simp [eatChar, atEnd_splits split, front, current_front split front]

theorem eatChar_other {d : Char} (split : c.Splits h.consumed h.rest)
    (other : ∀ more, h.rest ≠ d :: more) : c.eatChar d = (false, c) := by
  cases left : h.rest with
  | nil => simp [eatChar, atEnd_splits split, left]
  | cons e more =>
    have apart : e ≠ d := by
      rintro rfl
      exact other more left
    simp [eatChar, current_front split left, apart]

theorem eatThrough_first {d : Char} {body more : Text} (split : c.Splits h.consumed h.rest)
    (front : h.rest = body ++ d :: more) (first : d ∉ body) :
    c.eatThrough d = (true, c.skip (body ++ [d])) := by
  have run := bne_of_notMem first
  have stop : ∀ e ∈ (d :: more).head?, (e != d) = false := by simp
  simp [eatThrough, split.remaining, front, takeWhile_run run stop, dropWhile_run run stop]

theorem eatThrough_absent {d : Char} (split : c.Splits h.consumed h.rest)
    (absent : d ∉ h.rest) : c.eatThrough d = (false, c.skip h.rest) := by
  have none_found : c.remaining.dropWhile (· != d) = [] := by
    rw [split.remaining]
    exact List.dropWhile_eq_nil_iff.2 (bne_of_notMem absent)
  have last : width c.source = c.position + width h.rest := by
    rw [split.source, width_append, split.position]
  simp [eatThrough, none_found, last, skip]

theorem sliceFrom?_cut {before between : Text} (split : c.Splits h.consumed h.rest)
    (cut : h.consumed = before ++ between) : c.sliceFrom? (width before) = some between := by
  have inside := slice?_width before between h.rest
  rwa [← List.append_assoc, ← cut, ← split.source, ← width_append, ← cut,
    ← split.position] at inside

/-- A slice that is given lies in what has been passed. -/
theorem cut_of_sliceFrom? {start : Nat} {between : Text} (split : c.Splits h.consumed h.rest)
    (given : c.sliceFrom? start = some between) :
    ∃ before, h.consumed = before ++ between ∧ start = width before := by
  obtain ⟨before, after, source, here, stop⟩ := cuts_of_slice? given
  rw [split.source, ← List.append_assoc] at source
  rw [split.position, ← width_append] at stop
  obtain ⟨more, consumed⟩ := prefix_of_width_le source.symm stop.ge
  have none_more : more = [] := by
    by_contra some_more
    have := width_pos some_more
    rw [consumed, width_append] at stop
    omega
  exact ⟨before, by rw [consumed, none_more, List.append_nil], here⟩

/-- One step: what a call does to the pair, it does to the cursor. -/
theorem perform_simulated {call : Call} {answer : Answer} {n : Nat}
    (split : c.Splits h.consumed h.rest) (step : h.Step call answer n) :
    (c.perform call).1 = answer ∧
      (c.perform call).2.Splits (h.pass n).consumed (h.pass n).rest := by
  have left := split.remaining
  have stays : c.Splits (h.pass 0).consumed (h.pass 0).rest := by rwa [Halves.pass_zero]
  cases step with
  | remaining => exact ⟨congrArg Answer.text left, stays⟩
  | atEnd => exact ⟨congrArg Answer.flag (atEnd_splits split), stays⟩
  | current =>
    rw [perform, current, peek_eq, left, List.getD_eq_getElem?_getD]
    exact ⟨rfl, stays⟩
  | peek =>
    rw [perform, peek_eq, left, List.getD_eq_getElem?_getD]
    exact ⟨rfl, stays⟩
  | slice cut here =>
    rw [perform, here, sliceFrom?_cut split cut]
    exact ⟨rfl, stays⟩
  | @slice_refused start off =>
    refine ⟨?_, stays⟩
    cases given : c.sliceFrom? start with
    | none => rw [perform, given]; rfl
    | some between =>
      obtain ⟨before, cut, here⟩ := cut_of_sliceFrom? split given
      exact absurd here (off before between cut)
  | advance => exact ⟨rfl, splits_advance split⟩
  | advanceBy => exact ⟨rfl, splits_advanceBy split n⟩
  | eatChar front =>
    rw [perform, eatChar_front split front]
    exact ⟨rfl, splits_advance split⟩
  | eatChar_other other =>
    rw [perform, eatChar_other split other]
    exact ⟨rfl, stays⟩
  | eatText front =>
    rw [perform, eatText, left, if_pos (List.isPrefixOf_iff_prefix.2 front)]
    exact ⟨rfl, splits_skip split front⟩
  | eatText_other other =>
    rw [perform, eatText, left, if_neg (mt List.isPrefixOf_iff_prefix.1 other)]
    exact ⟨rfl, stays⟩
  | @eatWhile p w longest =>
    obtain rfl := longest.unique (longest_takeWhile p h.rest)
    rw [perform, eatWhile, left]
    exact ⟨rfl, splits_skip split longest.front⟩
  | @eatThrough d body more front first =>
    have through : body ++ [d] <+: h.rest := ⟨more, by simp [front]⟩
    have passed := splits_skip split through
    rw [List.length_append, List.length_singleton] at passed
    rw [perform, eatThrough_first split front first]
    exact ⟨rfl, passed⟩
  | eatThrough_end absent =>
    rw [perform, eatThrough_absent split absent]
    exact ⟨rfl, splits_skip split (List.prefix_refl h.rest)⟩

/-- A whole run. -/
theorem run_simulated {calls : List Call} {answers : List Answer} {last : Halves}
    (split : c.Splits h.consumed h.rest) (steps : h.Run calls answers last) :
    (c.run calls).1 = answers ∧ (c.run calls).2.Splits last.consumed last.rest := by
  induction steps generalizing c with
  | nil h => exact ⟨rfl, split⟩
  | cons step later ih =>
    obtain ⟨answer, next⟩ := perform_simulated split step
    obtain ⟨answers, last⟩ := ih next
    exact ⟨List.cons_eq_cons.2 ⟨answer, answers⟩, last⟩

theorem places_of_splits {source : Text} (split : c.Splits h.consumed h.rest)
    (whole : h.consumed ++ h.rest = source) : h.Places source c :=
  ⟨whole, split.source.trans whole, split.position.trans (length_utf8 _).symm⟩

/-- A cursor put at any offset stands at the first cut of the text from there on, and through any
calls it answers as the pair of texts at that cut does. -/
theorem refines_halves (source : Text) (offset : Nat) :
    IsLeast {n | (∃ before after, source = before ++ after ∧ n = (utf8 before).length) ∧
      min offset (utf8 source).length ≤ n} (ofOffset source offset).position ∧
    ∃ start : Halves, start.Places source (ofOffset source offset) ∧
      ∀ calls, (∃ answers last, start.Run calls answers last) ∧
        ∀ answers last, start.Run calls answers last →
          ((ofOffset source offset).run calls).1 = answers ∧
          last.Places source ((ofOffset source offset).run calls).2 := by
  simp only [length_utf8]
  refine ⟨snap_isLeast source offset, ?_⟩
  obtain ⟨before, cut, -, split⟩ := splits_ofOffset source offset
  let start : Halves := ⟨before, dropBytes offset source⟩
  refine ⟨start, places_of_splits split cut.symm, fun calls => ⟨start.exists_run calls, ?_⟩⟩
  intro answers last steps
  obtain ⟨same, placed⟩ := run_simulated (h := start) split steps
  exact ⟨same, places_of_splits placed (steps.whole.trans cut.symm)⟩

end Cursor

end QueryInk

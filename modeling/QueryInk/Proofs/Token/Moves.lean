import QueryInk.Proofs.Token.Forward
import QueryInk.Proofs.Token.LiteralLength

/-!
# Rules as calls of a cursor

A rule cuts a text in two. A scanner can as well apply it by calls of its cursor,
with the kind read off their answers and off the slice that they passed.
-/

namespace QueryInk

namespace Cursor
open Text

/-- Eats the first of the texts that comes next. -/
def eatFirst (c : Cursor) : List Text → Bool × Cursor
  | [] => (false, c)
  | text :: others => if (c.eatText text).1 then c.eatText text else c.eatFirst others

/-- Passes one character, and goes on through the next `close`. -/
def eatDelimited (close : Char) (c : Cursor) : Kind × Cursor :=
  let (closed, after) := c.advance.eatThrough close
  (if closed then .string else .badString, after)

/-- Passes a run of characters and cuts it out. -/
def eatRun? (p : Char → Bool) (c : Cursor) : Option (Text × Cursor) :=
  let (_, after) := c.eatWhile p
  (after.sliceFrom? c.position).map fun run => (run, after)

def eatSigil? (c : Cursor) : Option (Kind × Cursor) :=
  let (root, after) := c.eatText ['$', '$']
  if root then some (.builtin, after)
  else (c.advance.eatRun? isNameChar).map fun (name, after) =>
    (if name.isEmpty || Vocabulary.isFunction name then .builtin else .var, after)

def eatWord? (c : Cursor) : Option (Kind × Cursor) :=
  (c.eatRun? isWordChar).map fun (word, after) =>
    (if Vocabulary.isWordOperator word then .operator
      else if Vocabulary.isKeyword word then .keyword else .field, after)

variable {c : Cursor} {before t : Text}

theorem skip_skip (c : Cursor) (s t : Text) : (c.skip s).skip t = c.skip (s ++ t) := by
  simp [skip, Nat.add_assoc]

theorem Splits.advance_cons {d : Char} (split : c.Splits before (d :: t)) :
    c.advance = c.skip [d] := by
  rw [advance, split.remaining, List.take_succ_cons, List.take_zero]

theorem Splits.advance_nil (split : c.Splits before []) : c.advance = c := by
  rw [advance, split.remaining]
  rfl

theorem eatRun?_splits (split : c.Splits before t) (p : Char → Bool) :
    c.eatRun? p = some (t.takeWhile p, c.skip (t.takeWhile p)) := by
  have passed : (c.skip (t.takeWhile p)).Splits (before ++ t.takeWhile p) (t.dropWhile p) := by
    apply Splits.skip
    rwa [List.takeWhile_append_dropWhile]
  have cut := sliceFrom?_cut (h := ⟨before ++ t.takeWhile p, t.dropWhile p⟩) passed rfl
  simp [eatRun?, eatWhile, split.remaining, split.position, cut]

/-- The first of the texts to come next is the first that is eaten. -/
theorem eatFirst_find (c : Cursor) (texts : List String) :
    c.eatFirst (texts.map String.toList) =
      match texts.find? (·.toList.isPrefixOf c.remaining) with
      | some text => (true, c.skip text.toList)
      | none => (false, c) := by
  induction texts with
  | nil => rfl
  | cons text texts ih =>
    by_cases next : text.toList.isPrefixOf c.remaining = true
    · simp [eatFirst, eatText, next]
    · simp [eatFirst, eatText, next, ih]

theorem eatDelimited_splits (split : c.Splits before t) (close : Char) :
    c.eatDelimited close = ((Cut.delimited close t).kind, c.skip (Cut.delimited close t).taken) := by
  cases t with
  | nil =>
    have absent := eatThrough_absent (h := ⟨before, []⟩) split (d := close) List.not_mem_nil
    rw [eatDelimited, split.advance_nil, absent]
    rfl
  | cons d t =>
    have passed : (c.skip [d]).Splits (before ++ [d]) t := split.skip
    rw [eatDelimited, split.advance_cons]
    by_cases found : close ∈ t
    · obtain ⟨body, rest, rfl, inside⟩ := List.eq_append_cons_of_mem found
      have closed := eatThrough_first (h := ⟨before ++ [d], body ++ close :: rest⟩) passed rfl inside
      rw [closed, Cut.delimited_closed d rest inside, skip_skip]
      rfl
    · have missed := eatThrough_absent (h := ⟨before ++ [d], t⟩) passed found
      rw [missed, Cut.delimited_open d found, skip_skip]
      rfl

theorem eatSigil?_splits (split : c.Splits before t) :
    c.eatSigil? = some ((Cut.sigil t).kind, c.skip (Cut.sigil t).taken) := by
  unfold Cut.sigil
  split
  · next rest =>
    have root : c.eatText ['$', '$'] = (true, c.skip ['$', '$']) := by
      simp [eatText, split.remaining]
    rw [eatSigil?, root]
    rfl
  · have alone : c.eatText ['$', '$'] = (false, c) := by
      simp [eatText, split.remaining]
    rw [eatSigil?, alone, split.advance_nil]
    simp [eatRun?_splits split]
  · next d t other =>
    have apart : ['$', '$'].isPrefixOf (d :: t) = false := by
      rw [Bool.eq_false_iff]
      intro front
      obtain ⟨rest, eq⟩ := List.isPrefixOf_iff_prefix.1 front
      cases eq
      exact other rest rfl rfl
    have alone : c.eatText ['$', '$'] = (false, c) := by
      simp [eatText, split.remaining, apart]
    have passed : (c.skip [d]).Splits (before ++ [d]) t := split.skip
    rw [eatSigil?, alone, split.advance_cons]
    simp [eatRun?_splits passed, skip_skip]

theorem eatWord?_splits (split : c.Splits before t) :
    c.eatWord? = some ((Cut.word t).kind, c.skip (Cut.word t).taken) := by
  rw [eatWord?, eatRun?_splits split]
  rfl

end Cursor

namespace Scanner
open Text

/-- The scanner with its cursor moved. -/
def moved (s : Scanner) (read : Kind × Cursor) : Kind × Scanner :=
  (read.1, { s with cursor := read.2 })

/-- What each rule comes to, in calls of the cursor. No slice is refused. -/
structure Moves (s : Scanner) : Prop where
  pair :
    let read := s.cursor.eatFirst (Vocabulary.pairs.map String.toList)
    s.take? Cut.pair? = (if read.1 then some .operator else none, { s with cursor := read.2 })
  symbol : s.take Cut.symbol = s.moved (.operator, s.cursor.advance)
  delimited : ∀ close, s.take (Cut.delimited close) = s.moved (s.cursor.eatDelimited close)
  number : (s.take Cut.number).2.cursor =
    s.cursor.advanceBy ((Decimal.literalLength? s.cursor.remaining).getD 1)
  sigil : s.cursor.eatSigil?.map s.moved = some (s.take Cut.sigil)
  word : s.cursor.eatWord?.map s.moved = some (s.take Cut.word)

theorem moves_of_splits {s : Scanner} {before t : Text} (split : s.cursor.Splits before t) :
    s.Moves where
  pair := by
    intro read
    simp only [read, Cursor.eatFirst_find, take?, Cut.pair?]
    cases found : Vocabulary.pairs.find? (·.toList.isPrefixOf s.cursor.remaining) with
    | none => rfl
    | some op =>
      have front : op.toList <+: s.cursor.remaining := by simpa using List.find?_some found
      have taken : s.cursor.remaining.take op.length = op.toList := by
        rw [← String.length_toList]
        exact (List.prefix_iff_eq_take.1 front).symm
      simp [Cut.after, taken]
  symbol := rfl
  delimited := by
    intro close
    rw [Cursor.eatDelimited_splits split, ← split.remaining]
    rfl
  number := by
    rw [Decimal.cursor_take_number split, split.remaining]
  sigil := by
    rw [Cursor.eatSigil?_splits split, ← split.remaining]
    rfl
  word := by
    rw [Cursor.eatWord?_splits split, ← split.remaining]
    rfl

/-- Wherever a scanner has come to by any calls, its rules are calls of its cursor. -/
theorem rules_move (line : Text) (offset : Nat) (calls : List Call) :
    ((ofOffset line offset).run calls).Moves := by
  obtain ⟨p, -, stands⟩ := stands_ofOffset line offset
  obtain ⟨q, here, -⟩ := run_follows stands calls
  exact moves_of_splits here.splits

end Scanner

end QueryInk

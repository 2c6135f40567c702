import QueryInk.Proofs.Json.Grammar

/-!
# Reading JSON

A reader that looks ahead by a few characters and never goes back. It finds every
value that is spelled, whatever follows it (`Spells.read`), so no text spells two
values (`Spells.unique`). It has as much fuel as the text is long, and all that it
does again it does on a shorter text.
-/

namespace QueryInk.Json
open Decimal (Literal Unextending unextending_nil)

def skip (t : Text) : Text := t.dropWhile isGap

def readUnit? : Text → Option (Nat × Text)
  | a :: b :: c :: d :: t => (unit? (a, b, c, d)).map (·, t)
  | _ => none

/-- Reads on after `\u`: one unit, or the two of a surrogate pair. -/
def readEscape? (t : Text) : Option (Char × Text) := do
  let (n, t) ← readUnit? t
  if n < 0xD800 ∨ 0xDFFF < n then return (Char.ofNat n, t)
  else if n < 0xDC00 then
    match t with
    | '\\' :: 'u' :: t =>
      let (m, t) ← readUnit? t
      if 0xDC00 ≤ m ∧ m ≤ 0xDFFF then
        return (Char.ofNat (0x10000 + (n - 0xD800) * 0x400 + (m - 0xDC00)), t)
      else none
    | _ => none
  else none

def readChar? : Text → Option (Char × Text)
  | '\\' :: 'u' :: t => readEscape? t
  | '\\' :: e :: t => (shortEscapes.lookup e).map (·, t)
  | c :: t => if 0x20 ≤ c.toNat ∧ c ≠ '"' ∧ c ≠ '\\' then some (c, t) else none
  | [] => none

/-- The characters up to the quote that ends a string. -/
def readChars? : Nat → Text → Option (Text × Text)
  | 0, _ => none
  | fuel + 1, t =>
    match readChar? t with
    | some (c, t) => (readChars? fuel t).map fun (s, t) => (c :: s, t)
    | none => if t.head? = some '"' then some ([], t.tail) else none

/-- Items with commas between them, up to the bracket that closes the list. -/
def readSeries? {α : Type} (item : Text → Option (α × Text)) (close : Char) :
    Nat → Text → Option (List α × Text)
  | 0, _ => none
  | fuel + 1, t => do
    let (a, t) ← item t
    match t with
    | [] => none
    | c :: t =>
      if c = close then return ([a], t)
      else if c = ',' then (readSeries? item close fuel t).map fun (more, t) => (a :: more, t)
      else none

def readList? {α : Type} (item : Text → Option (α × Text)) (close : Char) (fuel : Nat)
    (t : Text) : Option (List α × Text) :=
  if (skip t).head? = some close then some ([], (skip t).tail)
  else readSeries? item close fuel t

def readElement? (value : Text → Option (Value × Text)) (t : Text) : Option (Value × Text) :=
  (value (skip t)).map fun (v, t) => (v, skip t)

def readMember? (value : Text → Option (Value × Text)) (fuel : Nat) (t : Text) :
    Option ((Text × Value) × Text) :=
  match skip t with
  | '"' :: t => do
    let (name, t) ← readChars? fuel t
    match skip t with
    | ':' :: t => (readElement? value t).map fun (v, t) => ((name, v), t)
    | _ => none
  | _ => none

/-- The value at the front of a text, and the text after it. -/
def readValue? : Nat → Text → Option (Value × Text)
  | 0, _ => none
  | fuel + 1, t =>
    match t with
    | 'n' :: 'u' :: 'l' :: 'l' :: t => some (.null, t)
    | 't' :: 'r' :: 'u' :: 'e' :: t => some (.bool true, t)
    | 'f' :: 'a' :: 'l' :: 's' :: 'e' :: t => some (.bool false, t)
    | '"' :: t => (readChars? fuel t).map fun (s, t) => (.string s, t)
    | '[' :: t =>
      (readList? (readElement? (readValue? fuel)) ']' fuel t).map fun (vs, t) => (.array vs, t)
    | '{' :: t =>
      (readList? (readMember? (readValue? fuel) fuel) '}' fuel t).map fun (ms, t) =>
        (.object ms, t)
    | t => (Literal.read? t).map fun (l, t) => (.number l, t)

/-- The value that a text spells, gaps around it aside. -/
def read? (t : Text) : Option Value :=
  match readElement? (readValue? t.length) t with
  | some (v, []) => some v
  | _ => none

/-! ## What is spelled is read -/

theorem skip_gap {gap : Text} (t : Text) (blank : Gap gap) : skip (gap ++ t) = skip t :=
  List.dropWhile_append_of_pos blank

theorem skip_solid {c : Char} (t : Text) (solid : isGap c = false) : skip (c :: t) = c :: t := by
  simp [skip, solid]

theorem unextending_gap {gap t : Text} (blank : Gap gap) (stop : Unextending t) :
    Unextending (gap ++ t) := by
  cases gap with
  | nil => exact stop
  | cons c gap =>
    rintro d ⟨⟩
    have blank := blank c List.mem_cons_self
    simp only [isGap, Bool.or_eq_true, beq_iff_eq] at blank
    rcases blank with ((rfl | rfl) | rfl) | rfl <;> decide

/-- A number starts with a digit or a minus sign. -/
theorem literal_head {l : Literal} (wf : l.WellFormed) :
    ∃ c rest, l.text = c :: rest ∧ (c = '-' ∨ c.isDigit = true) := by
  cases negative : l.negative with
  | true => exact ⟨'-', _, by simp [Literal.text, negative]; rfl, .inl rfl⟩
  | false =>
    rcases Decimal.mem_wholeWords.1 wf.whole with zero | ⟨c, more, whole, digit, -, -⟩
    · exact ⟨'0', _, by simp [Literal.text, negative, zero]; rfl, .inr rfl⟩
    · exact ⟨c, _, by simp [Literal.text, negative, whole]; rfl, .inr digit⟩

theorem lookup_shortEscapes :
    ∀ entry ∈ shortEscapes, entry.1 ≠ 'u' ∧ shortEscapes.lookup entry.1 = some entry.2 := by
  decide

theorem SpellsChar.read {t : Text} {c : Char} (h : SpellsChar t c) (rest : Text) :
    readChar? (t ++ rest) = some (c, rest) := by
  cases h with
  | plain printable noQuote noEscape =>
    simp [readChar?, printable, noQuote, noEscape]
  | short listed =>
    obtain ⟨noUnit, found⟩ := lookup_shortEscapes _ listed
    rw [List.cons_append, List.cons_append, List.nil_append, readChar?, found]
    · rfl
    · exact noUnit
  | unit is =>
    have range : c.toNat < 0xD800 ∨ 0xDFFF < c.toNat := by
      rcases c.valid with low | ⟨above, -⟩
      · exact .inl low
      · exact .inr above
    simp [unitText, readChar?, readEscape?, readUnit?, is, range]
  | @pair first second high low _ isHigh highBound isLow lowBound is =>
    -- the first unit is no character, so the second is asked for
    have surrogate : ¬ (0xD800 + high < 0xD800 ∨ 0xDFFF < 0xD800 + high) := by omega
    have isFirst : 0xD800 + high < 0xDC00 := by omega
    have isSecond : 0xDC00 ≤ 0xDC00 + low ∧ 0xDC00 + low ≤ 0xDFFF := by omega
    simp only [unitText, readChar?, readEscape?, readUnit?, isHigh, isLow, List.cons_append,
      List.nil_append, Option.map_some, Option.bind_eq_bind, Option.bind_some, if_neg surrogate,
      if_pos isFirst, if_pos isSecond, Nat.add_sub_cancel_left, ← is, Char.ofNat_toNat]
    rfl

theorem SpellsChar.length_pos {t : Text} {c : Char} (h : SpellsChar t c) : 0 < t.length := by
  cases h <;> simp [unitText]

theorem SpellsChars.read {t s : Text} (h : SpellsChars t s) {fuel : Nat} (rest : Text)
    (enough : t.length < fuel) : readChars? fuel (t ++ '"' :: rest) = some (s, rest) := by
  induction h generalizing fuel with
  | nil =>
    cases fuel with
    | zero => omega
    | succ fuel => rfl
  | cons first more ih =>
    have taken := first.length_pos
    rw [List.length_append] at enough
    cases fuel with
    | zero => omega
    | succ fuel =>
      rw [List.append_assoc, readChars?, first.read]
      simp only [ih (show _ < fuel by omega), Option.map_some]

/-- The two units of a pair are one character. -/
example : readChars? 13 "\\ud83d\\ude00\"".toList = some (['😀'], []) := by decide

section Series
variable {α β : Type} {item : Text → Option (α × Text)} {close : Char} {written : β → Text}
  {value : β → α} {gap : Text} {fuel : Nat}

/-- Items that are each read up to the comma or bracket after them are read one after the other. -/
theorem readSeries?_written (noComma : close ≠ ',') (blank : Gap gap) (rest : Text) {first : β}
    {pieces : List β} (enough : pieces.length < fuel)
    (each : ∀ p ∈ first :: pieces, ∀ gap c rest, Gap gap → c = ',' ∨ c = close →
      item (written p ++ (gap ++ c :: rest)) = some (value p, c :: rest)) :
    readSeries? item close fuel
        ([','].intercalate ((first :: pieces).map written) ++ (gap ++ close :: rest)) =
      some ((first :: pieces).map value, rest) := by
  induction pieces generalizing first fuel with
  | nil =>
    cases fuel with
    | zero => omega
    | succ fuel =>
      have here := each first List.mem_cons_self gap close rest blank (.inr rfl)
      simp [readSeries?, here]
  | cons second pieces ih =>
    cases fuel with
    | zero => omega
    | succ fuel =>
      rw [List.forall_mem_cons] at each
      have here := each.1 [] ',' ([','].intercalate ((second :: pieces).map written) ++
        (gap ++ close :: rest)) (by simp [Gap]) (.inl rfl)
      have later := ih (by simpa using enough) each.2
      simp only [List.map_cons, List.intercalate_cons_cons, List.append_assoc, List.nil_append]
        at here later ⊢
      simp [readSeries?, here, later, Ne.symm noComma]

theorem readList?_written (noComma : close ≠ ',') (solid : isGap close = false) (blank : Gap gap)
    (rest : Text) {pieces : List β} (enough : pieces.length ≤ fuel)
    (opens : ∀ p ∈ pieces, ∀ rest, (skip (written p ++ rest)).head? ≠ some close)
    (each : ∀ p ∈ pieces, ∀ gap c rest, Gap gap → c = ',' ∨ c = close →
      item (written p ++ (gap ++ c :: rest)) = some (value p, c :: rest)) :
    readList? item close fuel
        ([','].intercalate (pieces.map written) ++ (gap ++ close :: rest)) =
      some (pieces.map value, rest) := by
  cases pieces with
  | nil => simp [readList?, skip_gap _ blank, skip_solid _ solid]
  | cons first pieces =>
    -- the first item is not taken for the closing bracket
    have series := readSeries?_written noComma blank rest enough each
    have other := opens first List.mem_cons_self
    rw [readList?, if_neg, series]
    cases pieces with
    | nil => simpa using other _
    | cons second pieces => simpa using other _

end Series

theorem length_le_intercalate {pieces : List Text} {p : Text} (h : p ∈ pieces) :
    p.length ≤ ([','].intercalate pieces).length := by
  induction pieces with
  | nil => cases h
  | cons first pieces ih =>
    cases pieces with
    | nil => simp_all
    | cons second pieces =>
      rw [List.intercalate_cons_cons]
      rcases List.mem_cons.1 h with rfl | later
      · simp
      · have := ih later
        simp only [List.length_append]
        omega

theorem count_le_intercalate (pieces : List Text) :
    pieces.length ≤ ([','].intercalate pieces).length + 1 := by
  induction pieces with
  | nil => simp
  | cons first pieces ih =>
    cases pieces with
    | nil => simp
    | cons second pieces =>
      rw [List.intercalate_cons_cons]
      simp only [List.length_append, List.length_cons] at ih ⊢
      omega

/-- A value starts with a character that is neither a gap nor the end of a list. -/
theorem Spells.head {t : Text} {v : Value} (h : Spells t v) :
    ∃ c rest, t = c :: rest ∧ isGap c = false ∧ c ≠ ']' := by
  cases h with
  | null => exact ⟨_, _, rfl, rfl, by decide⟩
  | bool b =>
    cases b with
    | true => exact ⟨_, _, rfl, rfl, by decide⟩
    | false => exact ⟨_, _, rfl, rfl, by decide⟩
  | number wf =>
    obtain ⟨c, rest, eq, start⟩ := literal_head wf
    refine ⟨c, rest, eq, ?_, ?_⟩
    · rcases start with rfl | digit
      · rfl
      · have := Decimal.isDigit_iff.1 digit
        simp only [isGap, Bool.or_eq_false_iff, beq_eq_false_iff_ne]
        refine ⟨⟨⟨?_, ?_⟩, ?_⟩, ?_⟩ <;> (rintro rfl; contradiction)
    · rintro rfl
      simp at start
  | string => exact ⟨_, _, rfl, rfl, by decide⟩
  | array => exact ⟨_, _, rfl, rfl, by decide⟩
  | object => exact ⟨_, _, rfl, rfl, by decide⟩

theorem readElement?_written {value : Text → Option (Value × Text)} {e : Element} {tail : Text}
    (spelled : Spells e.text e.value) (stop : Unextending tail)
    (reads : ∀ rest, Unextending rest → value (e.text ++ rest) = some (e.value, rest)) :
    readElement? value (e.written ++ tail) = some (e.value, skip tail) := by
  obtain ⟨c, more, eq, solid, -⟩ := spelled.head
  have start : skip (e.written ++ tail) = e.text ++ (e.after ++ tail) := by
    rw [Element.written, List.append_assoc, skip_gap _ e.gap_before, eq]
    simpa using skip_solid _ solid
  rw [readElement?, start, reads _ (unextending_gap e.gap_after stop)]
  simp [skip_gap _ e.gap_after]

theorem readMember?_written {value : Text → Option (Value × Text)} {m : Member} {tail : Text}
    {fuel : Nat} (enough : m.label.length < fuel)
    (spelled : Spells m.element.text m.element.value) (stop : Unextending tail)
    (reads : ∀ rest, Unextending rest → value (m.element.text ++ rest) =
      some (m.element.value, rest)) :
    readMember? value fuel (m.written ++ tail) = some (m.entry, skip tail) := by
  have start : skip (m.written ++ tail) =
      '"' :: (m.label ++ '"' :: (m.after ++ ':' :: (m.element.written ++ tail))) := by
    rw [Member.written, List.append_assoc, skip_gap _ m.gap_before, quotes]
    simpa using skip_solid _ rfl
  have colon : skip (m.after ++ ':' :: (m.element.written ++ tail)) =
      ':' :: (m.element.written ++ tail) := by
    rw [skip_gap _ m.gap_after, skip_solid _ rfl]
  simp only [readMember?, start, m.spelled.read _ enough, Option.bind_eq_bind, Option.bind_some,
    colon, readElement?_written spelled stop reads]
  rfl

theorem unextending_close {c : Char} (rest : Text) (h : c = ',' ∨ c = ']' ∨ c = '}') :
    Unextending (c :: rest) := by
  rintro d ⟨⟩
  rcases h with rfl | rfl | rfl <;> decide

section Lists
variable {fuel : Nat} {gap : Text}

theorem readList?_elements {elements : List Element} (blank : Gap gap) (rest : Text)
    (enough : elements.length ≤ fuel) (each : ∀ e ∈ elements, Spells e.text e.value)
    (reads : ∀ e ∈ elements, ∀ rest, Unextending rest →
      readValue? fuel (e.text ++ rest) = some (e.value, rest)) :
    readList? (readElement? (readValue? fuel)) ']' fuel
        ([','].intercalate (elements.map Element.written) ++ (gap ++ ']' :: rest)) =
      some (elements.map Element.value, rest) := by
  refine readList?_written (by decide) rfl blank rest enough ?_ ?_
  · intro e member rest
    obtain ⟨c, more, eq, solid, other⟩ := (each e member).head
    rw [Element.written, List.append_assoc, skip_gap _ e.gap_before, eq, List.cons_append,
      List.cons_append, skip_solid _ solid, List.head?_cons]
    simpa using other
  · intro e member gap c rest blank ends
    have stop := unextending_close rest (ends.imp_right Or.inl)
    have solid : isGap c = false := by rcases ends with rfl | rfl <;> rfl
    rw [readElement?_written (each e member) (unextending_gap blank stop) (reads e member),
      skip_gap _ blank, skip_solid _ solid]

theorem readList?_members {members : List Member} (blank : Gap gap) (rest : Text)
    (enough : members.length ≤ fuel) (labels : ∀ m ∈ members, m.label.length < fuel)
    (each : ∀ m ∈ members, Spells m.element.text m.element.value)
    (reads : ∀ m ∈ members, ∀ rest, Unextending rest →
      readValue? fuel (m.element.text ++ rest) = some (m.element.value, rest)) :
    readList? (readMember? (readValue? fuel) fuel) '}' fuel
        ([','].intercalate (members.map Member.written) ++ (gap ++ '}' :: rest)) =
      some (members.map Member.entry, rest) := by
  refine readList?_written (by decide) rfl blank rest enough ?_ ?_
  · intro m member rest
    rw [Member.written, List.append_assoc, skip_gap _ m.gap_before, quotes, List.cons_append,
      List.cons_append, skip_solid _ rfl]
    simp
  · intro m member gap c rest blank ends
    have stop := unextending_close rest (ends.imp_right Or.inr)
    have solid : isGap c = false := by rcases ends with rfl | rfl <;> rfl
    rw [readMember?_written (labels m member) (each m member) (unextending_gap blank stop)
      (reads m member), skip_gap _ blank, skip_solid _ solid]

end Lists

theorem readValue?_number {c : Char} {t : Text} {fuel : Nat} (start : c = '-' ∨ c.isDigit = true) :
    readValue? (fuel + 1) (c :: t) =
      (Literal.read? (c :: t)).map fun (l, t) => (.number l, t) := by
  rw [readValue?]
  all_goals
    rintro u ⟨⟩
    simp at start

/-- A value is read off the front of a text, if what follows cannot go on with a number. -/
theorem Spells.read {t : Text} {v : Value} (h : Spells t v) {fuel : Nat} {rest : Text}
    (enough : t.length ≤ fuel) (stop : Unextending rest) :
    readValue? fuel (t ++ rest) = some (v, rest) := by
  induction h generalizing fuel rest with
  | null =>
    cases fuel with
    | zero => cases enough
    | succ fuel => rfl
  | bool b =>
    cases fuel with
    | zero => cases b <;> cases enough
    | succ fuel => cases b <;> rfl
  | number wf =>
    obtain ⟨c, more, eq, start⟩ := literal_head wf
    have read := Decimal.read?_text wf stop
    rw [eq] at enough read ⊢
    cases fuel with
    | zero => cases enough
    | succ fuel =>
      rw [List.cons_append] at read ⊢
      rw [readValue?_number start, read]
      rfl
  | @string t s chars =>
    cases fuel with
    | zero => cases enough
    | succ fuel =>
      have short : t.length < fuel := by
        simp only [quotes, List.length_cons, List.length_append] at enough
        omega
      simp [quotes, readValue?, chars.read rest short]
  | @array elements gap blank each ih =>
    cases fuel with
    | zero => cases enough
    | succ fuel =>
      have size := count_le_intercalate (elements.map Element.written)
      simp only [List.length_cons, List.length_append, List.length_map] at enough size
      have reads : ∀ e ∈ elements, ∀ rest, Unextending rest →
          readValue? fuel (e.text ++ rest) = some (e.value, rest) := by
        intro e member rest stop
        -- an element is shorter than its list, so the fuel that is left will do
        have within := length_le_intercalate (List.mem_map_of_mem (f := Element.written) member)
        simp only [Element.written, List.length_append] at within
        exact ih e member (by omega) stop
      have list := readList?_elements blank rest (by omega) each reads
      simp [readValue?, list]
  | @object members gap blank each ih =>
    cases fuel with
    | zero => cases enough
    | succ fuel =>
      have size := count_le_intercalate (members.map Member.written)
      simp only [List.length_cons, List.length_append, List.length_map] at enough size
      have within : ∀ m ∈ members,
          m.label.length < fuel ∧ m.element.text.length ≤ fuel := by
        intro m member
        have within := length_le_intercalate (List.mem_map_of_mem (f := Member.written) member)
        simp only [Member.written, Element.written, quotes, List.length_append,
          List.length_cons] at within
        omega
      have list := readList?_members blank rest (by omega) (fun m member => (within m member).1)
        each (fun m member rest stop => ih m member (within m member).2 stop)
      simp [readValue?, list]

theorem Spells.unique {t : Text} {v w : Value} (h : Spells t v) (k : Spells t w) : v = w := by
  have read := h.read (Nat.le_refl _) unextending_nil
  rw [k.read (Nat.le_refl _) unextending_nil] at read
  cases read
  rfl

theorem read?_written {e : Element} (spelled : Spells e.text e.value) :
    read? e.written = some e.value := by
  have short : e.text.length ≤ e.written.length := by
    simp only [Element.written, List.length_append]
    omega
  have read := readElement?_written spelled unextending_nil
    fun _ stop => spelled.read short stop
  rw [List.append_nil] at read
  rw [read?, read]
  rfl

end QueryInk.Json

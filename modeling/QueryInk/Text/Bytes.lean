/-!
# Text and byte offsets

Every position the library reports counts the bytes of the UTF-8 form before it, so
an offset handed in from outside can fall inside a character or past the end.
`dropBytes` moves such an offset forward to the next character; `slice?` refuses it.
-/

namespace QueryInk

abbrev Text := List Char

abbrev Bytes := List UInt8

namespace Text

/-- The number of bytes of the UTF-8 form. -/
def width (t : Text) : Nat := t.foldr (fun c n => c.utf8Size + n) 0

/-- The text after its first `n` bytes. A character only partly covered goes too. -/
def dropBytes : Nat → Text → Text
  | 0, t => t
  | _ + 1, [] => []
  | n + 1, c :: t => dropBytes (n + 1 - c.utf8Size) t

/-- The first `n` bytes of the text, with a character only partly covered taken whole. -/
def takeBytes : Nat → Text → Text
  | 0, _ => []
  | _ + 1, [] => []
  | n + 1, c :: t => c :: takeBytes (n + 1 - c.utf8Size) t

/-- The first character boundary at or after `n`, the end of the text at the latest. -/
def snap (t : Text) (n : Nat) : Nat := width t - width (dropBytes n t)

/-- Whether `n` bytes are a whole number of characters of the text. -/
def isBoundary (t : Text) (n : Nat) : Bool := snap t n == n

/-- The text between two boundaries. -/
def slice (t : Text) (start stop : Nat) : Text := takeBytes (stop - start) (dropBytes start t)

/-- The text between two offsets, if they are boundaries in order. -/
def slice? (t : Text) (start stop : Nat) : Option Text :=
  if start ≤ stop ∧ isBoundary t start ∧ isBoundary t stop then some (slice t start stop) else none

/-- The UTF-8 form. -/
def utf8 (t : Text) : Bytes := t.flatMap String.utf8EncodeChar

/-- Reads the UTF-8 form back; bytes that are no such form have no text. -/
def ofUtf8? (bytes : Bytes) : Option Text :=
  (String.fromUTF8? ⟨bytes.toArray⟩).map String.toList

@[simp] theorem width_nil : width [] = 0 := rfl

@[simp] theorem width_cons (c : Char) (t : Text) : width (c :: t) = c.utf8Size + width t :=
  rfl

@[simp] theorem width_append (s t : Text) : width (s ++ t) = width s + width t := by
  induction s with
  | nil => simp
  | cons c s ih => simp [ih, Nat.add_assoc]

theorem width_pos {t : Text} (h : t ≠ []) : 0 < width t := by
  cases t with
  | nil => contradiction
  | cons c t => have := c.utf8Size_pos; simp; omega

theorem dropBytes_eq_nil {n : Nat} {t : Text} (h : width t ≤ n) : dropBytes n t = [] := by
  induction t generalizing n with
  | nil => cases n <;> rfl
  | cons c t ih =>
    have := c.utf8Size_pos
    simp only [width_cons] at h
    cases n with
    | zero => omega
    | succ n => exact ih (by omega)

/-- What was encoded is read back. -/
theorem ofUtf8?_utf8 (t : Text) : ofUtf8? (utf8 t) = some t := by
  have bytes : ByteArray.mk (utf8 t).toArray = (String.ofList t).toByteArray := by
    rw [← String.utf8Encode_toList, String.toList_ofList, List.utf8Encode, utf8]
    ext1
    simp
  have valid : (ByteArray.mk (utf8 t).toArray).IsValidUTF8 := bytes ▸ (String.ofList t).isValidUTF8
  have whole : String.fromUTF8 _ valid = String.ofList t := by
    rw [← String.toByteArray_inj]
    exact bytes
  rw [ofUtf8?, String.fromUTF8?, dif_pos valid, whole]
  simp

end Text

end QueryInk

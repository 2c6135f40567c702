import Mathlib.Computability.Language
import Mathlib.Data.List.TakeWhile
import QueryInk.Text.Bytes

namespace QueryInk.Text
open Computability

/-- The texts of one character of a class. -/
def oneOf (p : Char → Bool) : Language Char := {w | ∃ c, p c = true ∧ w = [c]}

/-- No text of `L` at the front of `t` is longer than `w`, which is one. -/
structure Longest (L : Language Char) (t w : Text) : Prop where
  front : w <+: t
  mem : w ∈ L
  longest : ∀ v, v <+: t → v ∈ L → v.length ≤ w.length

theorem Longest.unique {L : Language Char} {t v w : Text} (hv : Longest L t v)
    (hw : Longest L t w) : v = w := by
  have short := hw.longest v hv.front hv.mem
  have long := hv.longest w hw.front hw.mem
  exact (List.prefix_of_prefix_length_le hv.front hw.front short).eq_of_length (by omega)

theorem mem_oneOf {p : Char → Bool} {w : Text} :
    w ∈ oneOf p ↔ ∃ c, p c = true ∧ w = [c] := Iff.rfl

theorem mem_run {p : Char → Bool} {w : Text} :
    w ∈ (oneOf p)∗ ↔ ∀ c ∈ w, p c = true := by
  constructor
  · rintro ⟨words, rfl, all⟩ c hc
    obtain ⟨word, hword, hc⟩ := List.mem_flatten.1 hc
    obtain ⟨d, hd, rfl⟩ := all word hword
    rw [List.mem_singleton.1 hc]
    exact hd
  · intro all
    refine ⟨w.map fun c => [c], (List.flatMap_singleton' w).symm, ?_⟩
    intro word hword
    obtain ⟨c, hc, rfl⟩ := List.mem_map.1 hword
    exact ⟨c, all c hc, rfl⟩

theorem mem_some_run {p : Char → Bool} {w : Text} :
    w ∈ oneOf p * (oneOf p)∗ ↔ w ≠ [] ∧ ∀ c ∈ w, p c = true := by
  simp only [Language.mem_mul, mem_oneOf, mem_run]
  constructor
  · rintro ⟨_, ⟨c, hc, rfl⟩, more, all, rfl⟩
    simpa [hc] using all
  · rintro ⟨hne, all⟩
    obtain ⟨c, more, rfl⟩ := List.exists_cons_of_ne_nil hne
    simp only [List.forall_mem_cons] at all
    exact ⟨[c], ⟨c, all.1, rfl⟩, more, all.2, rfl⟩

/-- A run followed by nothing, or by a character outside its class, is taken whole. -/
theorem takeWhile_run {p : Char → Bool} {run rest : Text} (inside : ∀ c ∈ run, p c = true)
    (stop : ∀ c ∈ rest.head?, p c = false) : (run ++ rest).takeWhile p = run := by
  rw [List.takeWhile_append_of_pos inside]
  cases rest with
  | nil => simp
  | cons c rest => simp [stop c rfl]

theorem dropWhile_run {p : Char → Bool} {run rest : Text} (inside : ∀ c ∈ run, p c = true)
    (stop : ∀ c ∈ rest.head?, p c = false) : (run ++ rest).dropWhile p = rest := by
  rw [List.dropWhile_append_of_pos inside]
  cases rest with
  | nil => simp
  | cons c rest => simp [stop c rfl]

/-- A text without `q` is a run of other characters. -/
theorem bne_of_notMem {q : Char} {t : Text} (absent : q ∉ t) : ∀ d ∈ t, (d != q) = true := by
  intro d inside
  exact bne_iff_ne.2 (ne_of_mem_of_not_mem inside absent)

/-- What the longest run leaves starts with a character that ends it. -/
theorem eq_false_of_dropWhile {p : Char → Bool} {t rest : Text} {c : Char}
    (h : t.dropWhile p = c :: rest) : p c = false := by
  have stop := List.head?_dropWhile_not p t
  simpa [h] using stop

theorem longest_takeWhile (p : Char → Bool) (t : Text) : Longest (oneOf p)∗ t (t.takeWhile p) where
  front := List.takeWhile_prefix p
  mem := mem_run.2 fun _ => List.mem_takeWhile_imp
  longest := by
    rintro v ⟨rest, rfl⟩ hv
    rw [List.takeWhile_append_of_pos (mem_run.1 hv), List.length_append]
    omega

end QueryInk.Text

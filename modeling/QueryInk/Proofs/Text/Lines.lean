import Mathlib.Data.List.Basic
import QueryInk.Text.Lines

namespace QueryInk.Text

@[elab_as_elim]
theorem lineInduction {motive : Text → Prop} (unended : ∀ t, '\n' ∉ t → motive t)
    (ended : ∀ line rest, '\n' ∉ line → motive rest → motive (line ++ '\n' :: rest))
    (t : Text) : motive t := by
  induction size : t.length using Nat.strongRecOn generalizing t with
  | ind n ih =>
    by_cases feed : '\n' ∈ t
    · obtain ⟨line, rest, rfl, inside⟩ := List.eq_append_cons_of_mem feed
      simp only [List.length_append, List.length_cons] at size
      exact ended line rest inside (ih rest.length (by omega) rest rfl)
    · exact unended t feed

theorem lines_of_unended {t : Text} (h : '\n' ∉ t) : lines t = if t.isEmpty then [] else [t] := by
  cases t with
  | nil => exact lines_nil
  | cons c t => exact lines_unended h (List.cons_ne_nil c t)

theorem mem_of_mem_stripReturn {line : Text} {c : Char} (h : c ∈ stripReturn line) : c ∈ line := by
  unfold stripReturn at h
  split at h
  · exact List.dropLast_subset line h
  · exact h

theorem of_mem_lines {t line : Text} {c : Char} (h : line ∈ lines t) (member : c ∈ line) :
    c ∈ t ∧ c ≠ '\n' := by
  induction t using lineInduction with
  | unended t inside =>
    rw [lines_of_unended inside] at h
    split at h
    · cases h
    · obtain rfl := List.mem_singleton.1 h
      exact ⟨member, fun feed => inside (feed ▸ member)⟩
  | ended first rest inside ih =>
    rw [lines_ended inside, List.mem_cons] at h
    rcases h with rfl | later
    · have kept := mem_of_mem_stripReturn member
      exact ⟨List.mem_append_left _ kept, fun feed => inside (feed ▸ kept)⟩
    · obtain ⟨found, noFeed⟩ := ih later
      exact ⟨by simp [found], noFeed⟩

end QueryInk.Text

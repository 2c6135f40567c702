import QueryInk.Token.Basic
import QueryInk.Token.Cut

namespace QueryInk.Token

/-- The tokens of a text that starts `offset` bytes into its line. -/
def streamFrom (offset : Nat) (t : Text) : List Token :=
  match _h : t.dropWhile Text.isBlank with
  | [] => []
  | c :: rest =>
    let start := offset + Text.width (t.takeWhile Text.isBlank)
    let cut := Cut.first c rest
    let stop := start + Text.width cut.taken
    ⟨cut.kind, start, stop⟩ :: streamFrom stop cut.rest
termination_by t.length
decreasing_by
  have shorter := (List.dropWhile_suffix (l := t) Text.isBlank).length_le
  have progress := Cut.first_rest_length c rest
  simp only [_h, List.length_cons] at shorter
  omega

def stream (line : Text) : List Token := streamFrom 0 line

theorem streamFrom_blank {t : Text} (h : t.dropWhile Text.isBlank = []) (offset : Nat) :
    streamFrom offset t = [] := by
  rw [streamFrom]
  split
  · rfl
  · simp_all

theorem streamFrom_cons {t rest : Text} {c : Char} (h : t.dropWhile Text.isBlank = c :: rest)
    (offset : Nat) :
    streamFrom offset t =
      let start := offset + Text.width (t.takeWhile Text.isBlank)
      let cut := Cut.first c rest
      let stop := start + Text.width cut.taken
      ⟨cut.kind, start, stop⟩ :: streamFrom stop cut.rest := by
  rw [streamFrom]
  split
  · simp_all
  · next d more found =>
    obtain ⟨rfl, rfl⟩ := List.cons.inj (h.symm.trans found)
    rfl

end QueryInk.Token

import DomainModel.Text.Split

/-! Splitting at the commas that are not inside brackets. -/

namespace DomainModel.Text

/-- How deep the text after `c` is nested in a kind of brackets. Those that close nothing are
ignored. -/
def depthAfter (opening closing : Char) (depth : Nat) (c : Char) : Nat :=
  if c == opening then depth + 1 else if c == closing then depth - 1 else depth

section Depth
variable {opening closing : Char} (depth : Nat)

theorem depthAfter_opening : depthAfter opening closing depth opening = depth + 1 :=
  if_pos (beq_self_eq_true opening)

theorem depthAfter_closing (h : closing ≠ opening) : depthAfter opening closing depth closing = depth - 1 := by
  rw [depthAfter, if_neg (by simpa using h), if_pos (beq_self_eq_true closing)]

theorem depthAfter_other {c : Char} (hopening : c ≠ opening) (hclosing : c ≠ closing) :
    depthAfter opening closing depth c = depth := by
  rw [depthAfter, if_neg (by simpa using hopening), if_neg (by simpa using hclosing)]

end Depth

/-- The parts between the commas outside a kind of brackets; `depth` of them are open in front of
the text. -/
def splitOutside (opening closing : Char) (depth : Nat) : List Char → List (List Char)
  | [] => [[]]
  | c :: rest =>
    if c == ',' && depth == 0 then [] :: splitOutside opening closing 0 rest
    else prependToFirst c (splitOutside opening closing (depthAfter opening closing depth c) rest)

theorem length_le_of_mem_prependToFirst {c : Char} {parts : List (List Char)} {part : List Char} {n : Nat}
    (h : ∀ p ∈ parts, p.length ≤ n) (hpart : part ∈ prependToFirst c parts) : part.length ≤ n + 1 := by
  cases parts with
  | nil => simp_all [prependToFirst]
  | cons first others =>
    rcases List.mem_cons.1 hpart with rfl | hmem
    · simpa using h first (by simp)
    · exact Nat.le_succ_of_le (h part (by simp [hmem]))

/-- No part is longer than the text. -/
theorem length_le_of_mem_splitOutside {opening closing : Char} {depth : Nat} {s part : List Char}
    (h : part ∈ splitOutside opening closing depth s) : part.length ≤ s.length := by
  induction s generalizing depth part with
  | nil => simp_all [splitOutside]
  | cons c rest ih =>
    simp only [splitOutside] at h
    split at h
    · rcases List.mem_cons.1 h with rfl | hmem
      · simp
      · exact Nat.le_succ_of_le (ih hmem)
    · exact length_le_of_mem_prependToFirst (fun p hp => ih hp) h

end DomainModel.Text

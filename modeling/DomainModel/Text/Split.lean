/-! Splitting a text at a separator and joining the parts again. -/

namespace DomainModel.Text

/-- Puts a character in front of the first part. -/
def prependToFirst (c : Char) : List (List Char) → List (List Char)
  | [] => [[c]]
  | part :: parts => (c :: part) :: parts

/-- The parts between the occurrences of `separator`; there is always at least one. -/
def splitAt (separator : Char) : List Char → List (List Char)
  | [] => [[]]
  | c :: rest =>
    if c == separator then [] :: splitAt separator rest else prependToFirst c (splitAt separator rest)

/-- The parts with `separator` between them. -/
def joinWith (separator : List Char) : List (List Char) → List Char
  | [] => []
  | [part] => part
  | part :: parts => part ++ separator ++ joinWith separator parts

theorem splitAt_ne_nil (separator : Char) (s : List Char) : splitAt separator s ≠ [] := by
  cases s with
  | nil => simp [splitAt]
  | cons c rest =>
    simp only [splitAt]
    split
    · simp
    · cases splitAt separator rest <;> simp [prependToFirst]

theorem joinWith_splitAt (separator : Char) (s : List Char) :
    joinWith [separator] (splitAt separator s) = s := by
  induction s with
  | nil => rfl
  | cons c rest ih =>
    obtain ⟨part, parts, h⟩ := List.exists_cons_of_ne_nil (splitAt_ne_nil separator rest)
    by_cases hc : c = separator
    · simpa [splitAt, hc, h, joinWith] using ih
    · cases parts <;> simp_all [splitAt, joinWith, prependToFirst]

theorem splitAt_of_not_mem {separator : Char} {s : List Char} (h : separator ∉ s) : splitAt separator s = [s] := by
  induction s with
  | nil => rfl
  | cons c rest ih =>
    rw [List.mem_cons, not_or] at h
    obtain ⟨hc, hrest⟩ := h
    rw [splitAt, if_neg (by simpa using Ne.symm hc), ih hrest, prependToFirst]

theorem prependToFirst_append {c : Char} {parts : List (List Char)} (h : parts ≠ []) (others : List (List Char)) :
    prependToFirst c (parts ++ others) = prependToFirst c parts ++ others := by
  cases parts with
  | nil => exact absurd rfl h
  | cons part parts => rfl

/-- Texts with a separator between them are split one by one. -/
theorem splitAt_append_cons (separator : Char) (s t : List Char) :
    splitAt separator (s ++ separator :: t) = splitAt separator s ++ splitAt separator t := by
  induction s with
  | nil => simp [splitAt]
  | cons c rest ih =>
    rw [List.cons_append, splitAt, splitAt, ih]
    split
    · rfl
    · exact prependToFirst_append (splitAt_ne_nil separator rest) _

theorem splitAt_append {separator : Char} {part : List Char} (h : separator ∉ part) (s : List Char) :
    splitAt separator (part ++ separator :: s) = part :: splitAt separator s := by
  rw [splitAt_append_cons, splitAt_of_not_mem h, List.singleton_append]

/-- A character that does not separate belongs to the last part. -/
theorem exists_splitAt_concat {separator c : Char} (h : c ≠ separator) (s : List Char) :
    ∃ before last, splitAt separator s = before ++ [last] ∧
      splitAt separator (s ++ [c]) = before ++ [last ++ [c]] := by
  induction s with
  | nil => exact ⟨[], [], rfl, by simp [splitAt, prependToFirst, h]⟩
  | cons d rest ih =>
    obtain ⟨before, last, hrest, hlonger⟩ := ih
    rw [List.cons_append, splitAt, splitAt, hrest, hlonger]
    split
    · exact ⟨[] :: before, last, rfl, rfl⟩
    · cases before with
      | nil => exact ⟨[], d :: last, rfl, rfl⟩
      | cons part before => exact ⟨(d :: part) :: before, last, rfl, rfl⟩

/-- Parts without the separator are found again. -/
theorem splitAt_joinWith {separator : Char} {parts : List (List Char)} (hsome : parts ≠ [])
    (h : ∀ part ∈ parts, separator ∉ part) : splitAt separator (joinWith [separator] parts) = parts := by
  induction parts with
  | nil => exact absurd rfl hsome
  | cons part parts ih =>
    obtain ⟨hpart, hparts⟩ := List.forall_mem_cons.1 h
    cases parts with
    | nil => exact splitAt_of_not_mem hpart
    | cons next parts =>
      rw [joinWith, List.append_assoc, List.singleton_append, splitAt_append hpart, ih (List.cons_ne_nil _ _) hparts]
      exact fun hnil => List.cons_ne_nil _ _ hnil

end DomainModel.Text

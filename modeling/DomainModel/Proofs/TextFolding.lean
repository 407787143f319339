import DomainModel.Text.Ascii
import DomainModel.Text.Blank
import Mathlib.Data.List.DropRight

/-! Trimming and the folding of ASCII case, and how the two go together. A trimmed text has no outer
blanks left, and folding neither makes nor removes a blank, so texts that agree up to case do so after
trimming as well. Names that agree without their outer blanks and up to case are alike; being alike is
an equivalence, which is why a name that clashes with another one is clashed with by it. What the readers
of texts take from the front is a run of characters of one kind, which ends where another kind begins. -/

namespace DomainModel.Text

/-- A run of characters of one kind is cut off in front of the first character of another kind. -/
theorem takeWhile_append_run {p : Char → Bool} {run s : List Char} (hrun : ∀ c ∈ run, p c = true)
    (hend : ∀ c ∈ s.head?, p c = false) : (run ++ s).takeWhile p = run ∧ (run ++ s).dropWhile p = s := by
  rw [List.takeWhile_append_of_pos hrun, List.dropWhile_append_of_pos hrun]
  cases s with
  | nil => simp
  | cons c rest => simp [hend c rfl]

theorem trimChars_eq_rdropWhile (s : List Char) : trimChars s = (s.dropWhile isBlank).rdropWhile isBlank := rfl

/-- A text that begins and ends with no blank is left as it is. -/
theorem trimChars_eq_self {s : List Char} (hfront : ∀ c ∈ s.head?, isBlank c = false)
    (hback : ∀ c ∈ s.getLast?, isBlank c = false) : trimChars s = s := by
  have hleft : s.dropWhile isBlank = s := by
    cases s with
    | nil => rfl
    | cons c rest => simp [hfront c (by simp)]
  rw [trimChars_eq_rdropWhile, hleft, List.rdropWhile_eq_self_iff]
  intro hs
  simp [hback _ (List.getLast_mem_getLast? hs)]

theorem head_trimChars {s : List Char} {c : Char} (h : c ∈ (trimChars s).head?) : isBlank c = false := by
  obtain ⟨rest, hrest⟩ := List.rdropWhile_prefix isBlank (s.dropWhile isBlank)
  have hhead : (s.dropWhile isBlank).head? = some c := by
    rw [trimChars_eq_rdropWhile] at h
    rw [← hrest, List.head?_append, Option.mem_def.1 h, Option.some_or]
  have := List.head?_dropWhile_not isBlank s
  rwa [hhead] at this

theorem last_trimChars {s : List Char} {c : Char} (h : c ∈ (trimChars s).getLast?) : isBlank c = false := by
  rw [trimChars, List.getLast?_reverse] at h
  have := List.head?_dropWhile_not isBlank (skipBlanks s).reverse
  rwa [show ((skipBlanks s).reverse.dropWhile isBlank).head? = some c from h] at this

@[simp] theorem trimChars_trimChars (s : List Char) : trimChars (trimChars s) = trimChars s :=
  trimChars_eq_self (fun _ => head_trimChars) (fun _ => last_trimChars)

@[simp] theorem trim_trim (s : String) : trim (trim s) = trim s := by
  rw [trim, toList_trim, trimChars_trimChars, trim]

/-- A blank at the end of a text is trimmed away. -/
theorem trimChars_concat {c : Char} (h : isBlank c = true) (s : List Char) : trimChars (s ++ [c]) = trimChars s := by
  rw [trimChars_eq_rdropWhile, trimChars_eq_rdropWhile, List.dropWhile_append]
  split
  · next hblank => rw [List.isEmpty_iff.1 hblank, List.dropWhile_cons_of_pos h, List.dropWhile_nil]
  · exact List.rdropWhile_concat_pos _ _ _ h

/-- Blanks at the end are trimmed away. -/
theorem trimChars_append_blanks {gap : List Char} (hgap : ∀ c ∈ gap, isBlank c = true) (s : List Char) :
    trimChars (s ++ gap) = trimChars s := by
  induction gap using List.reverseRecOn with
  | nil => rw [List.append_nil]
  | append_singleton gap c ih =>
      obtain ⟨hfront, hback⟩ := List.forall_mem_append.1 hgap
      rw [← List.append_assoc, trimChars_concat (hback c (List.mem_singleton_self c)), ih hfront]

/-- A text without outer blanks stays when the blanks in front of it are skipped. -/
theorem skipBlanks_append {core : List Char} (hsome : core ≠ []) (htrimmed : trimChars core = core)
    (s back : List Char) : skipBlanks (s ++ (core ++ back)) = skipBlanks s ++ (core ++ back) := by
  obtain ⟨c, rest, rfl⟩ := List.exists_cons_of_ne_nil hsome
  have hfront : isBlank c = false := head_trimChars (by rw [htrimmed]; rfl)
  have hstays : (c :: rest ++ back).dropWhile isBlank = c :: rest ++ back :=
    List.dropWhile_cons_of_neg (by rw [hfront]; exact Bool.false_ne_true)
  rw [skipBlanks, List.dropWhile_append, hstays, skipBlanks]
  split
  · next hempty => rw [List.isEmpty_iff.1 hempty, List.nil_append]
  · rfl

/-- A text that ends without a blank loses at most the blanks in front of it. -/
theorem trimChars_append {core : List Char} (hsome : core ≠ []) (htrimmed : trimChars core = core)
    (s : List Char) : trimChars (s ++ core) = skipBlanks s ++ core := by
  have hback := skipBlanks_append hsome htrimmed s []
  rw [List.append_nil] at hback
  rw [trimChars_eq_rdropWhile]
  change (skipBlanks (s ++ core)).rdropWhile isBlank = _
  rw [hback, List.rdropWhile_eq_self_iff]
  intro hne
  rw [List.getLast_append_of_ne_nil _ hsome]
  refine Bool.eq_false_iff.1 (last_trimChars (s := core) ?_)
  rw [htrimmed]
  exact List.getLast_mem_getLast? hsome

theorem toNat_toLower (c : Char) :
    c.toLower.toNat = if 65 ≤ c.toNat ∧ c.toNat ≤ 90 then c.toNat + 32 else c.toNat := by
  have hA : ('A' : Char).val.toNat = 65 := rfl
  have hZ : ('Z' : Char).val.toNat = 90 := rfl
  by_cases h : 65 ≤ c.toNat ∧ c.toNat ≤ 90
  · have hval : c.val ≥ 'A'.val ∧ c.val ≤ 'Z'.val := by
      simpa only [ge_iff_le, UInt32.le_iff_toNat_le, hA, hZ, Char.toNat] using h
    delta Char.toLower
    rw [if_pos h, dif_pos hval]
    simp only [Char.toNat, UInt32.toNat_add] at h ⊢
    rw [show ('a'.val - 'A'.val).toNat = 32 from rfl, Nat.mod_eq_of_lt (by omega)]
  · have hval : ¬(c.val ≥ 'A'.val ∧ c.val ≤ 'Z'.val) := by
      simpa only [ge_iff_le, UInt32.le_iff_toNat_le, hA, hZ, Char.toNat] using h
    delta Char.toLower
    rw [if_neg h, dif_neg hval]

theorem toNat_toUpper (c : Char) :
    c.toUpper.toNat = if 97 ≤ c.toNat ∧ c.toNat ≤ 122 then c.toNat - 32 else c.toNat := by
  have ha : ('a' : Char).val.toNat = 97 := rfl
  have hz : ('z' : Char).val.toNat = 122 := rfl
  by_cases h : 97 ≤ c.toNat ∧ c.toNat ≤ 122
  · have hval : c.val ≥ 'a'.val ∧ c.val ≤ 'z'.val := by
      simpa only [ge_iff_le, UInt32.le_iff_toNat_le, ha, hz, Char.toNat] using h
    delta Char.toUpper
    rw [if_pos h, dif_pos hval]
    simp only [Char.toNat, UInt32.toNat_add] at h ⊢
    rw [show ('A'.val - 'a'.val).toNat = 4294967264 from rfl]
    omega
  · have hval : ¬(c.val ≥ 'a'.val ∧ c.val ≤ 'z'.val) := by
      simpa only [ge_iff_le, UInt32.le_iff_toNat_le, ha, hz, Char.toNat] using h
    delta Char.toUpper
    rw [if_neg h, dif_neg hval]

/-- Raising a letter and folding it again is folding it. -/
theorem toLower_toUpper (c : Char) : c.toUpper.toLower = c.toLower := by
  apply Char.toNat_inj.1
  rw [toNat_toLower, toNat_toLower, toNat_toUpper]
  split_ifs <;> omega

theorem toUpper_toLower (c : Char) : c.toLower.toUpper = c.toUpper := by
  apply Char.toNat_inj.1
  rw [toNat_toUpper, toNat_toUpper, toNat_toLower]
  split_ifs <;> omega

theorem toLower_toLower (c : Char) : c.toLower.toLower = c.toLower := by
  apply Char.toNat_inj.1
  rw [toNat_toLower, toNat_toLower]
  split_ifs <;> omega

/-- Folding neither makes nor removes a blank: the letters A to Z are none and become none. -/
theorem isBlank_toLower (c : Char) : isBlank c.toLower = isBlank c := by
  simp only [isBlank, toNat_toLower]
  split
  · rw [Bool.eq_iff_iff]
    simp
    omega
  · rfl

theorem trimChars_map_toLower (s : List Char) :
    trimChars (s.map Char.toLower) = (trimChars s).map Char.toLower := by
  have hcomp : isBlank ∘ Char.toLower = isBlank := funext isBlank_toLower
  simp only [trimChars, skipBlanks, List.dropWhile_map, hcomp, ← List.map_reverse]

/-- Texts that agree up to case do so after trimming. -/
theorem equalIgnoringCase_trim {a b : String} (h : equalIgnoringCase a b = true) :
    equalIgnoringCase (trim a) (trim b) = true := by
  rw [equalIgnoringCase_iff] at h ⊢
  rw [toList_trim, toList_trim, ← trimChars_map_toLower, ← trimChars_map_toLower, h]

theorem equalIgnoringCase_symm {a b : String} (h : equalIgnoringCase a b = true) :
    equalIgnoringCase b a = true := by
  rwa [equalIgnoringCase_comm]

/-- Two names count as one: without their outer blanks they agree up to the case of ASCII letters. -/
def Alike (a b : String) : Prop := equalIgnoringCase (trim a) (trim b) = true

instance (a b : String) : Decidable (Alike a b) :=
  inferInstanceAs (Decidable (equalIgnoringCase (trim a) (trim b) = true))

theorem Alike.refl (a : String) : Alike a a := equalIgnoringCase_refl _

theorem Alike.symm {a b : String} (h : Alike a b) : Alike b a := equalIgnoringCase_symm h

theorem Alike.trans {a b c : String} (hab : Alike a b) (hbc : Alike b c) : Alike a c :=
  equalIgnoringCase_trans hab hbc

theorem trimChars_sublist (s : List Char) : (trimChars s).Sublist s :=
  (List.rdropWhile_prefix isBlank _).sublist.trans (List.dropWhile_suffix isBlank).sublist

/-- A text that agrees with a trimmed one up to case is trimmed itself, as folding makes no blank and removes none. -/
theorem equalIgnoringCase_trim_right_iff {a b : String} :
    equalIgnoringCase a (trim b) = true ↔ Alike a b ∧ trim a = a := by
  constructor
  · intro h
    have halike : Alike a b := by
      have htrimmed := equalIgnoringCase_trim h
      rwa [trim_trim] at htrimmed
    refine ⟨halike, String.toList_inj.1 ?_⟩
    rw [Alike, equalIgnoringCase_iff] at halike
    rw [equalIgnoringCase_iff, ← halike, toList_trim] at h
    rw [toList_trim]
    refine (trimChars_sublist a.toList).eq_of_length ?_
    rw [← List.length_map Char.toLower, ← h, List.length_map]
  · rintro ⟨halike, htrimmed⟩
    rwa [Alike, htrimmed] at halike

/-- No two of the names are alike. -/
def Distinct (names : List String) : Prop := names.Pairwise fun a b => ¬ Alike a b

instance (names : List String) : Decidable (Distinct names) :=
  inferInstanceAs (Decidable (names.Pairwise fun a b => ¬ Alike a b))

end DomainModel.Text

import DomainModel.Text.Blank
import DomainModel.Text.Nesting
import Mathlib.Data.List.Infix

/-! Splitting at commas outside brackets, text by text. A text that closes what it opens, and has no comma outside,
is passed over as a whole: it goes to the front of the first part of what follows. Such texts can be put one after
the other and into brackets, and inside brackets commas count as any other character. How deep the reader is behind a
text can be counted, as long as the text closes nothing that is not open; so texts that are passed over are told by
counting. Whatever is closed or left open, the parts with commas between them are the text again. -/

namespace DomainModel.Text

theorem foldr_prependToFirst (front part : List Char) (parts : List (List Char)) :
    front.foldr prependToFirst (part :: parts) = (front ++ part) :: parts := by
  induction front with
  | nil => rfl
  | cons c front ih => rw [List.foldr_cons, ih, prependToFirst, List.cons_append]

theorem splitOutside_ne_nil (opening closing : Char) (depth : Nat) (s : List Char) :
    splitOutside opening closing depth s ≠ [] := by
  cases s with
  | nil => simp [splitOutside]
  | cons c rest =>
      rw [splitOutside]
      split
      · exact List.cons_ne_nil _ _
      · cases splitOutside opening closing (depthAfter opening closing depth c) rest <;> simp [prependToFirst]

theorem joinWith_prependToFirst (separator : List Char) (c : Char) (parts : List (List Char)) :
    joinWith separator (prependToFirst c parts) = c :: joinWith separator parts := by
  cases parts with
  | nil => rfl
  | cons part parts => cases parts <;> rfl

/-- Nothing is lost by splitting, from whatever depth. -/
theorem joinWith_splitOutside (opening closing : Char) (depth : Nat) (s : List Char) :
    joinWith [','] (splitOutside opening closing depth s) = s := by
  induction s generalizing depth with
  | nil => rfl
  | cons c rest ih =>
      rw [splitOutside]
      split
      · next hcut =>
          have hcomma : c = ',' := beq_iff_eq.1 (Bool.and_eq_true_iff.1 hcut).1
          have hrest := ih 0
          obtain ⟨part, parts, h⟩ := List.exists_cons_of_ne_nil (splitOutside_ne_nil opening closing 0 rest)
          rw [h] at hrest ⊢
          rw [joinWith, hrest, hcomma]
          · rfl
          · exact List.cons_ne_nil _ _
      · rw [joinWith_prependToFirst, ih]

/-- At this depth the text is no place to split, and it leads to the same depth. -/
def PassedOver (opening closing : Char) (depth : Nat) (front : List Char) : Prop :=
  ∀ s, splitOutside opening closing depth (front ++ s) =
    front.foldr prependToFirst (splitOutside opening closing depth s)

namespace PassedOver
variable {opening closing : Char} {depth : Nat} {front back : List Char}

theorem append (hfront : PassedOver opening closing depth front) (hback : PassedOver opening closing depth back) :
    PassedOver opening closing depth (front ++ back) := by
  intro s
  rw [List.append_assoc, hfront, hback, List.foldr_append]

/-- Characters that are neither brackets nor commas. -/
theorem plain (h : ∀ c ∈ front, c ≠ opening ∧ c ≠ closing ∧ c ≠ ',') (depth : Nat) :
    PassedOver opening closing depth front := by
  intro s
  induction front with
  | nil => rfl
  | cons c front ih =>
      rw [List.forall_mem_cons] at h
      obtain ⟨⟨hopening, hclosing, hcomma⟩, hrest⟩ := h
      rw [List.cons_append, splitOutside, if_neg (by simp [hcomma]), depthAfter_other depth hopening hclosing, ih hrest,
        List.foldr_cons]

/-- Blanks, where brackets are none. -/
theorem blanks (hopening : isBlank opening = false) (hclosing : isBlank closing = false)
    (h : ∀ c ∈ front, isBlank c = true) (depth : Nat) : PassedOver opening closing depth front := by
  apply plain
  intro c hc
  have hblank := h c hc
  refine ⟨?_, ?_, ?_⟩
  · rintro rfl
    exact Bool.false_ne_true (hopening.symm.trans hblank)
  · rintro rfl
    exact Bool.false_ne_true (hclosing.symm.trans hblank)
  · rintro rfl
    exact absurd hblank (by decide)

/-- A comma inside brackets. -/
theorem comma (hopening : opening ≠ ',') (hclosing : closing ≠ ',') (depth : Nat) :
    PassedOver opening closing (depth + 1) [','] := by
  intro s
  rw [List.singleton_append, splitOutside, if_neg (by simp), depthAfter_other _ hopening.symm hclosing.symm]
  rfl

/-- A text in brackets. -/
theorem bracketed (hopening : opening ≠ ',') (hne : closing ≠ opening)
    (h : PassedOver opening closing (depth + 1) front) :
    PassedOver opening closing depth (opening :: (front ++ [closing])) := by
  intro s
  rw [List.cons_append, splitOutside, if_neg (by simp [hopening]), depthAfter_opening, List.append_assoc, h,
    List.singleton_append, splitOutside, if_neg (by simp), depthAfter_closing _ hne, Nat.add_sub_cancel,
    List.foldr_cons, List.foldr_append]
  rfl

/-- The text is the first part when a comma follows. -/
theorem splitOutside_comma (h : PassedOver opening closing 0 front) (s : List Char) :
    splitOutside opening closing 0 (front ++ ',' :: s) = front :: splitOutside opening closing 0 s := by
  have hcut : splitOutside opening closing 0 (',' :: s) = [] :: splitOutside opening closing 0 s := rfl
  rw [h, hcut, foldr_prependToFirst, List.append_nil]

/-- The text is the only part when nothing follows. -/
theorem splitOutside_self (h : PassedOver opening closing 0 front) :
    splitOutside opening closing 0 front = [front] := by
  have hwhole := h []
  rwa [List.append_nil, splitOutside, foldr_prependToFirst, List.append_nil] at hwhole

/-- Texts that are passed over are found again between their commas. -/
theorem splitOutside_joinWith {parts : List (List Char)} (hsome : parts ≠ [])
    (h : ∀ part ∈ parts, PassedOver opening closing 0 part) :
    splitOutside opening closing 0 (joinWith [','] parts) = parts := by
  induction parts with
  | nil => exact absurd rfl hsome
  | cons part parts ih =>
      obtain ⟨hpart, hparts⟩ := List.forall_mem_cons.1 h
      cases parts with
      | nil => exact hpart.splitOutside_self
      | cons next parts =>
          have hrest := ih (List.cons_ne_nil _ _) hparts
          rw [joinWith, List.append_assoc, List.singleton_append, hpart.splitOutside_comma, hrest]
          exact List.cons_ne_nil _ _

end PassedOver

/-! ### Counting brackets -/

section Counting
variable {opening closing : Char}

/-- How deep the reader is behind a text that closes nothing that is not open. -/
theorem foldl_depthAfter (hne : closing ≠ opening) {depth : Nat} {s : List Char}
    (h : ∀ front, front <+: s → front.count closing ≤ depth + front.count opening) :
    s.foldl (depthAfter opening closing) depth + s.count closing = depth + s.count opening := by
  induction s generalizing depth with
  | nil => rfl
  | cons c rest ih =>
      have hstep (front : List Char) (hfront : front <+: rest) :
          (c :: front).count closing ≤ depth + (c :: front).count opening :=
        h _ ((List.prefix_cons_inj c).2 hfront)
      rw [List.foldl_cons]
      by_cases hopening : c = opening
      · subst hopening
        simp only [List.count_cons_self, List.count_cons_of_ne hne.symm] at hstep ⊢
        have hrest := @ih (depth + 1) fun front hfront => by
          have hfits := hstep front hfront
          omega
        rw [depthAfter_opening]
        omega
      by_cases hclosing : c = closing
      · subst hclosing
        simp only [List.count_cons_self, List.count_cons_of_ne hopening] at hstep ⊢
        have hopen : 1 ≤ depth := by simpa using hstep [] List.nil_prefix
        have hrest := @ih (depth - 1) fun front hfront => by
          have hfits := hstep front hfront
          omega
        rw [depthAfter_closing _ hopening]
        omega
      · simp only [List.count_cons_of_ne hopening, List.count_cons_of_ne hclosing] at hstep ⊢
        rw [depthAfter_other depth hopening hclosing, ih hstep]

/-- The reader splits nowhere in a text whose commas it meets inside brackets. -/
theorem splitOutside_append {depth : Nat} {s : List Char}
    (h : ∀ front, front ++ [','] <+: s → front.foldl (depthAfter opening closing) depth ≠ 0) (t : List Char) :
    splitOutside opening closing depth (s ++ t) =
      s.foldr prependToFirst (splitOutside opening closing (s.foldl (depthAfter opening closing) depth) t) := by
  induction s generalizing depth with
  | nil => rfl
  | cons c rest ih =>
      have hinside : (c == ',' && depth == 0) = false := by
        by_cases hc : c = ','
        · have hdepth : depth ≠ 0 := h [] (by rw [hc]; exact List.prefix_append [','] rest)
          simp [hdepth]
        · simp [hc]
      rw [List.cons_append, splitOutside, hinside, if_neg Bool.false_ne_true, ih, List.foldr_cons, List.foldl_cons]
      intro front hfront
      exact h (c :: front) ((List.prefix_cons_inj c).2 hfront)

/-- Every bracket that the text closes has been opened in it, none stays open, and commas are inside brackets only. -/
structure Enclosed (opening closing : Char) (s : List Char) : Prop where
  closes : ∀ front, front <+: s → front.count closing ≤ front.count opening
  balanced : s.count closing = s.count opening
  commas : ∀ front, front ++ [','] <+: s → front.count closing < front.count opening

instance (opening closing : Char) (s : List Char) : Decidable (Enclosed opening closing s) :=
  decidable_of_iff
    ((∀ front ∈ s.inits, front.count closing ≤ front.count opening) ∧ s.count closing = s.count opening ∧
      ∀ front ∈ s.inits, front ++ [','] <+: s → front.count closing < front.count opening)
    ⟨fun ⟨hcloses, hbalanced, hcommas⟩ =>
      ⟨fun front hfront => hcloses front ((List.mem_inits front s).2 hfront), hbalanced, fun front hfront =>
        hcommas front ((List.mem_inits front s).2 ((List.prefix_append front [',']).trans hfront)) hfront⟩,
    fun h => ⟨fun front hfront => h.closes front ((List.mem_inits front s).1 hfront), h.balanced,
      fun front _ hfront => h.commas front hfront⟩⟩

theorem Enclosed.passedOver (hne : closing ≠ opening) {s : List Char} (h : Enclosed opening closing s) :
    PassedOver opening closing 0 s := by
  have hdepth {front : List Char} (hfront : front <+: s) :
      front.foldl (depthAfter opening closing) 0 + front.count closing = 0 + front.count opening := by
    apply foldl_depthAfter hne
    intro part hpart
    rw [Nat.zero_add]
    exact h.closes part (hpart.trans hfront)
  have hback : s.foldl (depthAfter opening closing) 0 = 0 := by
    have hwhole := hdepth List.prefix_rfl
    have hbalanced := h.balanced
    omega
  intro t
  rw [splitOutside_append, hback]
  intro front hfront
  have hinside := h.commas front hfront
  have hcount := hdepth ((List.prefix_append front [',']).trans hfront)
  omega

end Counting

end DomainModel.Text

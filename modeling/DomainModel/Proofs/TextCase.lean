import DomainModel.Proofs.TextFolding
import DomainModel.Text.Case
import DomainModel.Text.Word

/-! What case mapping does to the kinds of characters. Every image that a case table names lies in a run of
code points, so a property of all images is a check of the ends of the runs: none of them is blank, and no
lower case is a capital letter of ASCII. Beyond ASCII two letters alone have a lower case that begins with
an ASCII letter, the dotted capital I and the Kelvin sign. A text whose lower case is ASCII without a `k`
is therefore ASCII itself, and its lower case is the plain one. -/

namespace DomainModel.Text

/-! ### Ranges of code points -/

/-- No code point from `first` to `last` lies in one of the ranges. -/
def Apart (ranges : List (Nat × Nat)) (first last : Nat) : Prop :=
  ∀ range ∈ ranges, last < range.1 ∨ range.2 < first

instance (ranges : List (Nat × Nat)) (first last : Nat) : Decidable (Apart ranges first last) :=
  decidable_of_iff ((ranges.all fun range => Nat.blt last range.1 || Nat.blt range.2 first) = true) (by simp [Apart])

theorem inRanges_iff {ranges : List (Nat × Nat)} {c : Char} :
    inRanges ranges c = true ↔ ∃ range ∈ ranges, range.1 ≤ c.toNat ∧ c.toNat ≤ range.2 := by
  simp [inRanges]

theorem Apart.inRanges_eq_false {ranges : List (Nat × Nat)} {first last : Nat} (h : Apart ranges first last) {c : Char}
    (hfirst : first ≤ c.toNat) (hlast : c.toNat ≤ last) : inRanges ranges c = false := by
  rw [Bool.eq_false_iff]
  intro hc
  obtain ⟨range, hrange, hlow, hhigh⟩ := inRanges_iff.1 hc
  rcases h range hrange with hbelow | habove
  · omega
  · omega

/-- The blanks as ranges. -/
def blankTable : List (Nat × Nat) := [
  (0x09, 0x0D), (0x20, 0x20), (0x85, 0x85), (0xA0, 0xA0), (0x1680, 0x1680), (0x2000, 0x200A), (0x2028, 0x2029),
  (0x202F, 0x202F), (0x205F, 0x205F), (0x3000, 0x3000)]

theorem isBlank_eq_inRanges (c : Char) : isBlank c = inRanges blankTable c := by
  rw [Bool.eq_iff_iff, inRanges_iff]
  simp [isBlank, blankTable]
  omega

theorem toNat_of_isAlphanum {c : Char} (h : c.isAlphanum = true) : 0x30 ≤ c.toNat ∧ c.toNat ≤ 0x7A := by
  delta Char.isAlphanum Char.isAlpha Char.isUpper Char.isLower Char.isDigit at h
  simp only [Bool.or_eq_true, Bool.and_eq_true, decide_eq_true_eq, ge_iff_le, UInt32.le_iff_toNat_le] at h
  have hvalue : c.toNat = c.val.toNat := rfl
  rw [hvalue]
  revert h
  simp only [show 'A'.val.toNat = 65 from rfl, show 'Z'.val.toNat = 90 from rfl, show 'a'.val.toNat = 97 from rfl,
    show 'z'.val.toNat = 122 from rfl, show '0'.val.toNat = 48 from rfl, show '9'.val.toNat = 57 from rfl]
  omega

/-- A word character is no blank. -/
theorem isBlank_of_isWordChar {c : Char} (h : isWordChar c = true) : isBlank c = false := by
  rw [isBlank_eq_inRanges]
  rw [isWordChar] at h
  split at h
  · rw [Bool.or_eq_true, beq_iff_eq] at h
    rcases h with halpha | rfl
    · have hbounds := toNat_of_isAlphanum halpha
      have hapart : Apart blankTable 0x30 0x7A := by decide
      exact hapart.inRanges_eq_false hbounds.1 hbounds.2
    · decide
  · obtain ⟨range, hrange, hlow, hhigh⟩ := inRanges_iff.1 h
    have hapart : ∀ range ∈ wordTable, Apart blankTable range.1 range.2 := by decide +kernel
    exact (hapart range hrange).inRanges_eq_false hlow hhigh

/-! ### Images of case tables -/

theorem toNat_ofNat_of_valid {n : Nat} (h : n.isValidChar) : (Char.ofNat n).toNat = n := by
  rw [Char.ofNat, dif_pos h]
  rfl

/-- What is no code point gives the character zero. -/
theorem toNat_ofNat_cases (n : Nat) : (Char.ofNat n).toNat = n ∨ (Char.ofNat n).toNat = 0 := by
  by_cases h : n.isValidChar
  · exact .inl (toNat_ofNat_of_valid h)
  · right
    rw [Char.ofNat, dif_neg h]
    rfl

/-- The last code point that a run may give. -/
def CaseRun.lastImage (run : CaseRun) : Nat := run.image + (run.last - run.first)

/-- Where the image of a character comes from: a row, a run, or the character itself. -/
theorem mapCase_cases (runs : List CaseRun) (sequences : List (Nat × List Nat)) (c : Char) :
    (∃ row ∈ sequences, mapCase runs sequences c = row.2.map Char.ofNat) ∨
    (∃ run ∈ runs, ∃ n, run.image ≤ n ∧ n ≤ run.lastImage ∧ mapCase runs sequences c = [Char.ofNat n]) ∨
    mapCase runs sequences c = [c] := by
  rw [mapCase]
  split
  · next codes hcodes =>
      obtain ⟨before, after, hrows, -⟩ := List.lookup_eq_some_iff.1 hcodes
      exact .inl ⟨(c.toNat, codes), by simp [hrows], rfl⟩
  · cases hfound : runs.findSome? (·.image? c.toNat) with
    | none => exact .inr (.inr rfl)
    | some n =>
        obtain ⟨run, hrun, himage⟩ := List.exists_of_findSome?_eq_some hfound
        rw [CaseRun.image?] at himage
        split at himage
        · next hin =>
            simp only [Bool.and_eq_true, decide_eq_true_eq] at hin
            have hn := Option.some.inj himage
            have hlast : n ≤ run.lastImage := by
              rw [CaseRun.lastImage]
              omega
            exact .inr (.inl ⟨run, hrun, n, by omega, hlast, rfl⟩)
        · cases himage

/-- A table whose runs and rows keep apart from a set leads into the set only what lies in it already. -/
theorem inRanges_mapCase {ranges : List (Nat × Nat)} {runs : List CaseRun} {sequences : List (Nat × List Nat)}
    (hzero : inRanges ranges '\x00' = false) (hruns : ∀ run ∈ runs, Apart ranges run.image run.lastImage)
    (hrows : ∀ row ∈ sequences, ∀ n ∈ row.2, inRanges ranges (Char.ofNat n) = false) {c d : Char}
    (hc : inRanges ranges c = false) (h : d ∈ mapCase runs sequences c) : inRanges ranges d = false := by
  rcases mapCase_cases runs sequences c with ⟨row, hrow, heq⟩ | ⟨run, hrun, n, hlow, hhigh, heq⟩ | heq
  · rw [heq] at h
    obtain ⟨n, hn, rfl⟩ := List.mem_map.1 h
    exact hrows row hrow n hn
  · rw [heq] at h
    rw [List.mem_singleton.1 h]
    rcases toNat_ofNat_cases n with hn | hn
    · exact (hruns run hrun).inRanges_eq_false (by omega) (by omega)
    · rwa [show Char.ofNat n = '\x00' from Char.toNat_inj.1 hn]
  · rw [heq] at h
    rwa [List.mem_singleton.1 h]

/-- A letter that is no blank has no blank in its lower case. -/
theorem isBlank_of_mem_lowerChar {c d : Char} (hc : isBlank c = false) (h : d ∈ lowerChar c) : isBlank d = false := by
  rw [lowerChar] at h
  split at h
  · rw [List.mem_singleton.1 h, isBlank_toLower, hc]
  · rw [isBlank_eq_inRanges] at hc ⊢
    exact inRanges_mapCase (by decide) (by decide +kernel) (by decide +kernel) hc h

/-- A statement about ASCII is a check of its characters. -/
theorem forall_ascii {P : Char → Prop} (h : ∀ n < 0x80, P (Char.ofNat n)) {c : Char} (hc : c.toNat < 0x80) : P c := by
  have hvalue := h c.toNat hc
  rwa [Char.ofNat_toNat] at hvalue

/-- A letter that is no blank has no blank in its upper case. -/
theorem isBlank_of_mem_upperChar {c d : Char} (hc : isBlank c = false) (h : d ∈ upperChar c) : isBlank d = false := by
  rw [upperChar] at h
  split at h
  · next hascii =>
      have hupper : isBlank c = false → isBlank c.toUpper = false :=
        forall_ascii (P := fun c => isBlank c = false → isBlank c.toUpper = false) (by decide +kernel) hascii
      rw [List.mem_singleton.1 h, hupper hc]
  · rw [isBlank_eq_inRanges] at hc ⊢
    exact inRanges_mapCase (by decide) (by decide +kernel) (by decide +kernel) hc h

/-! ### Lower case and ASCII -/

/-- No letter becomes a capital letter of ASCII. -/
theorem isUpper_of_mem_lowerChar {c d : Char} (h : d ∈ lowerChar c) : d.isUpper = false := by
  have hrange : ∀ c : Char, c.isUpper = inRanges [(0x41, 0x5A)] c := by
    intro c
    delta Char.isUpper
    rw [Bool.eq_iff_iff, inRanges_iff, decide_eq_true_eq]
    simp only [ge_iff_le, UInt32.le_iff_toNat_le, List.mem_singleton, exists_eq_left]
    rfl
  rw [lowerChar] at h
  split at h
  · next hascii =>
      rw [List.mem_singleton.1 h]
      exact forall_ascii (P := fun c => c.toLower.isUpper = false) (by decide +kernel) hascii
  · next hbeyond =>
      rw [hrange]
      have hapart : Apart [(0x41, 0x5A)] 0x80 c.toNat := by simp [Apart]
      exact inRanges_mapCase (by decide) (by decide +kernel) (by decide +kernel)
        (hapart.inRanges_eq_false (Nat.le_of_not_lt hbeyond) le_rfl) h

/-- The Kelvin sign is the only letter beyond ASCII that becomes an ASCII letter, a `k`, and nothing else. -/
theorem ascii_of_lowerChar {c : Char} (h : ∀ d ∈ lowerChar c, d.toNat < 0x80 ∧ d ≠ 'k') : c.toNat < 0x80 := by
  have hruns : ∀ run ∈ lowerRuns, run.image = 0x6B ∧ run.lastImage = 0x6B ∨
      0x80 ≤ run.image ∧ (run.lastImage < 0xD800 ∨ 0xDFFF < run.image ∧ run.lastImage < 0x110000) := by
    decide +kernel
  have hrows : ∀ row ∈ lowerSequences, ∃ n ∈ row.2, 0x80 ≤ (Char.ofNat n).toNat := by decide
  by_contra hbeyond
  -- the dotted capital I is no exception here, as its dot stays beyond ASCII
  rw [lowerChar, if_neg hbeyond] at h
  rcases mapCase_cases lowerRuns lowerSequences c with ⟨row, hrow, heq⟩ | ⟨run, hrun, n, hlow, hhigh, heq⟩ | heq
  · obtain ⟨n, hn, hlarge⟩ := hrows row hrow
    have hsmall := (h (Char.ofNat n) (by rw [heq]; exact List.mem_map_of_mem hn)).1
    omega
  · obtain ⟨hsmall, hnotk⟩ := h (Char.ofNat n) (by rw [heq]; exact List.mem_singleton_self _)
    rcases hruns run hrun with ⟨hfirst, hlast⟩ | ⟨hlarge, hvalid⟩
    · exact hnotk (by rw [show n = 0x6B by omega])
    · rw [toNat_ofNat_of_valid (by rw [Nat.isValidChar]; omega)] at hsmall
      omega
  · exact hbeyond (h c (by rw [heq]; exact List.mem_singleton_self c)).1

theorem lowerChar_of_ascii {c : Char} (h : c.toNat < 0x80) : lowerChar c = [c.toLower] := by
  rw [lowerChar, if_pos h]

/-- What a lower-cased text is made of: the small sigmas stand for the capital one, and every other character
belongs to the lower case of a character of the text. -/
theorem mem_lowerAfter {before s : List Char} {d : Char} (h : d ∈ lowerAfter before s) :
    d = 'ς' ∨ d = 'σ' ∨ ∃ c ∈ s, d ∈ lowerChar c := by
  induction s generalizing before with
  | nil => exact absurd h List.not_mem_nil
  | cons c rest ih =>
      rw [lowerAfter, List.mem_append] at h
      rcases h with hfront | hrest
      · split at hfront
        · rw [List.mem_singleton.1 hfront]
          cases sigmaIsFinal before rest with
          | true => exact .inl rfl
          | false => exact .inr (.inl rfl)
        · exact .inr (.inr ⟨c, List.mem_cons_self, hfront⟩)
      · rcases ih hrest with hfinal | hsmall | ⟨e, he, hd⟩
        · exact .inl hfinal
        · exact .inr (.inl hsmall)
        · exact .inr (.inr ⟨e, List.mem_cons_of_mem _ he, hd⟩)

/-- The lower case of a text in ASCII is the plain one. -/
theorem lowerAfter_of_ascii {before s : List Char} (h : ∀ c ∈ s, c.toNat < 0x80) :
    lowerAfter before s = s.map Char.toLower := by
  induction s generalizing before with
  | nil => rfl
  | cons c rest ih =>
      rw [List.forall_mem_cons] at h
      have hsigma : ¬ (c == 'Σ') = true := by
        rw [beq_iff_eq]
        rintro rfl
        exact absurd h.1 (by decide)
      rw [lowerAfter, if_neg hsigma, lowerChar_of_ascii h.1, ih h.2, List.map_cons, List.singleton_append]

/-- A text whose lower case is ASCII without a `k` is ASCII itself. -/
theorem ascii_of_lowerAfter {before s : List Char} (h : ∀ d ∈ lowerAfter before s, d.toNat < 0x80 ∧ d ≠ 'k') :
    ∀ c ∈ s, c.toNat < 0x80 := by
  induction s generalizing before with
  | nil => exact fun c hc => absurd hc List.not_mem_nil
  | cons c rest ih =>
      rw [lowerAfter, List.forall_mem_append] at h
      rw [List.forall_mem_cons]
      refine ⟨?_, ih h.2⟩
      obtain ⟨hfront, -⟩ := h
      split at hfront
      · have hsmall := (hfront _ (List.mem_singleton_self _)).1
        split at hsmall <;> exact absurd hsmall (by decide)
      · exact ascii_of_lowerChar hfront

theorem mem_lowerChars {s : List Char} {d : Char} (h : d ∈ lowerChars s) :
    d = 'ς' ∨ d = 'σ' ∨ ∃ c ∈ s, d ∈ lowerChar c :=
  mem_lowerAfter h

theorem lowerChars_of_ascii {s : List Char} (h : ∀ c ∈ s, c.toNat < 0x80) : lowerChars s = s.map Char.toLower :=
  lowerAfter_of_ascii h

theorem ascii_of_lowerChars {s : List Char} (h : ∀ d ∈ lowerChars s, d.toNat < 0x80 ∧ d ≠ 'k') :
    ∀ c ∈ s, c.toNat < 0x80 :=
  ascii_of_lowerAfter h

/-- What agrees with ASCII ignoring case is ASCII. -/
theorem ascii_of_equalIgnoringCase {a b : String} (hb : ∀ c ∈ b.toList, c.toNat < 0x80)
    (h : equalIgnoringCase a b = true) : ∀ c ∈ a.toList, c.toNat < 0x80 := by
  intro c hc
  rw [equalIgnoringCase_iff] at h
  have hmem : c.toLower ∈ b.toList.map Char.toLower := h ▸ List.mem_map_of_mem hc
  obtain ⟨d, hd, hlower⟩ := List.mem_map.1 hmem
  have hvalue := congrArg Char.toNat hlower
  have hsmall := hb d hd
  rw [toNat_toLower, toNat_toLower] at hvalue
  split at hvalue <;> split at hvalue <;> omega

/-- In ASCII, texts agree in lower case when they agree ignoring case. -/
theorem lower_eq_of_ascii {a b : String} (ha : ∀ c ∈ a.toList, c.toNat < 0x80) (hb : ∀ c ∈ b.toList, c.toNat < 0x80) :
    lower a = lower b ↔ equalIgnoringCase a b = true := by
  rw [equalIgnoringCase_iff, lower, lower, lowerChars_of_ascii ha, lowerChars_of_ascii hb, String.ofList_inj]

end DomainModel.Text

import DomainModel.Proofs.NearestDouble
import DomainModel.Proofs.Numerals
import DomainModel.Proofs.TextFolding
import Mathlib.Tactic.NormNum

/-! Texts that are read as doubles. Besides the numbers there are words for what is no finite number; a number stands
for the double nearest to it, or for an infinity. A text is a value of a constraint when what it is read as is finite
and no other characters than those of numbers are in it. These are the numbers whose size is below the middle between
the greatest double and the power of two behind it, whatever their digits and exponents are. -/

namespace DomainModel.Numeral

/-! ### Reading doubles -/

/-- What a text is read as. -/
inductive Reading where
  | finite (value : Binary64)
  | infinite (negative : Bool)
  | undefined
  deriving DecidableEq, Repr

/-- Whether it is a finite double. -/
def Reading.isFinite : Reading → Bool
  | .finite _ => true
  | .infinite _ => false
  | .undefined => false

/-- The size of a number as a fraction. -/
def ratio (n : Numeral) : Nat × Nat :=
  if 0 ≤ n.power then (n.coefficient * 10 ^ n.power.toNat, 1) else (n.coefficient, 10 ^ (-n.power).toNat)

/-- The double nearest to a number; an infinity keeps the sign. -/
def nearest (n : Numeral) : Reading :=
  match Binary64.ofRatio? n.negative n.ratio.1 n.ratio.2 with
  | some value => .finite value
  | none => .infinite n.negative

/-- Reads a double: a number, or behind an optional sign one of the words, in any case. -/
def readDouble? (s : List Char) : Option Reading :=
  let (negative, unsigned) := splitSign s
  let word := unsigned.map Char.toLower
  if word == "nan".toList then some .undefined
  else if word == "inf".toList || word == "infinity".toList then some (.infinite negative)
  else (parse? s).map nearest

/-- The characters of numbers. -/
def isNumberChar (c : Char) : Bool := c.isDigit || ['-', '+', '.', 'e', 'E'].contains c

/-! ### The characters of numbers -/

theorem IsDigits.isNumberChar {s : List Char} (h : IsDigits s) : ∀ c ∈ s, isNumberChar c = true := by
  intro c hc
  rw [Numeral.isNumberChar, h c hc, Bool.true_or]

theorem SpellsSign.isNumberChar {negative : Bool} {s : List Char} (h : SpellsSign negative s) :
    ∀ c ∈ s, isNumberChar c = true := by
  cases h with
  | absent => exact List.forall_mem_nil _
  | plus => exact List.forall_mem_singleton.2 rfl
  | minus => exact List.forall_mem_singleton.2 rfl

theorem SpellsInteger.isNumberChar {n : Int} {s : List Char} (h : SpellsInteger n s) :
    ∀ c ∈ s, isNumberChar c = true := by
  obtain ⟨hsign, -, hdigits⟩ := h
  exact List.forall_mem_append.2 ⟨hsign.isNumberChar, hdigits.isNumberChar⟩

theorem Spells.isNumberChar {n : Numeral} {s : List Char} (h : n.Spells s) : ∀ c ∈ s, isNumberChar c = true := by
  obtain ⟨sign, fraction, exponent, hsign, hfraction, hexponent, rfl⟩ := h.parts
  have hfractionChars : ∀ c ∈ fraction, Numeral.isNumberChar c = true := by
    generalize n.fraction = digits at hfraction
    cases hfraction with
    | absent => exact List.forall_mem_nil _
    | point hdigits => exact List.forall_mem_cons.2 ⟨rfl, hdigits.isNumberChar⟩
  have hexponentChars : ∀ c ∈ exponent, Numeral.isNumberChar c = true := by
    generalize n.exponent = power at hexponent
    cases hexponent with
    | absent => exact List.forall_mem_nil _
    | present hmark hn => exact List.forall_mem_cons.2 ⟨by rcases hmark with rfl | rfl <;> rfl, hn.isNumberChar⟩
  simp only [List.forall_mem_append]
  exact ⟨hsign.isNumberChar, h.whole.isNumberChar, hfractionChars, hexponentChars⟩

/-- Every word for what is no number has this letter in it, and no number has. -/
theorem toLower_ne_of_isNumberChar {c : Char} (h : isNumberChar c = true) : c.toLower ≠ 'n' := by
  have hmarks : (['-', '+', '.', 'e', 'E'].all fun mark => mark.toLower != 'n') = true := by decide
  rw [isNumberChar, Bool.or_eq_true, List.contains_iff_mem] at h
  rcases h with hdigit | hmark
  · intro heq
    have hnine := toNat_le_of_isDigit hdigit
    have hlower := Text.toNat_toLower c
    have hletter : ('n' : Char).toNat = 110 := rfl
    rw [heq, if_neg (by omega), hletter] at hlower
    omega
  · exact bne_iff_ne.1 (List.all_eq_true.1 hmarks c hmark)

theorem readDouble?_of_spells {n : Numeral} {s : List Char} (h : n.Spells s) : readDouble? s = some n.nearest := by
  have hletter : 'n' ∉ (splitSign s).2.map Char.toLower := by
    intro hmem
    obtain ⟨c, hc, hlower⟩ := List.mem_map.1 hmem
    obtain ⟨sign, -, hs⟩ := exists_sign s
    have hin : c ∈ s := by
      rw [hs]
      exact List.mem_append_right _ hc
    exact toLower_ne_of_isNumberChar (h.isNumberChar c hin) hlower
  have hword {word : List Char} (hn : 'n' ∈ word) : ¬ ((splitSign s).2.map Char.toLower == word) = true := by
    intro heq
    rw [beq_iff_eq.1 heq] at hletter
    exact hletter hn
  have hinfinite : ¬ ((splitSign s).2.map Char.toLower == "inf".toList ||
      (splitSign s).2.map Char.toLower == "infinity".toList) = true := by
    rw [Bool.or_eq_true, not_or]
    exact ⟨hword (by decide), hword (by decide)⟩
  rw [readDouble?]
  dsimp only
  rw [if_neg (hword (by decide)), if_neg hinfinite, parse?_eq_some_iff.2 h, Option.map_some]

/-- Only numbers are read as finite doubles. -/
theorem exists_spells_of_isFinite {s : List Char} {reading : Reading} (h : readDouble? s = some reading)
    (hfinite : reading.isFinite = true) : ∃ n : Numeral, n.Spells s ∧ reading = n.nearest := by
  rw [readDouble?] at h
  dsimp only at h
  split_ifs at h
  · cases h
    cases hfinite
  · cases h
    cases hfinite
  · obtain ⟨n, hn, rfl⟩ := Option.map_eq_some_iff.1 h
    exact ⟨n, parse?_eq_some_iff.1 hn, rfl⟩

/-! ### Where the nearest double is finite -/

theorem ratio_pos (n : Numeral) : 0 < n.ratio.2 := by
  rw [ratio]
  split
  · exact Nat.one_pos
  · exact Nat.pow_pos (by decide)

theorem ratio_eq (n : Numeral) : (n.ratio.1 : ℚ) / n.ratio.2 = n.size := by
  rw [ratio, size]
  split
  · next hwhole =>
      obtain ⟨k, hk⟩ := Int.eq_ofNat_of_zero_le hwhole
      rw [hk, Int.toNat_natCast, zpow_natCast]
      push_cast
      rw [div_one]
  · next hnegative =>
      obtain ⟨k, hk⟩ : ∃ k : Nat, n.power = -(k : Int) := ⟨(-n.power).toNat, by omega⟩
      rw [hk, neg_neg, Int.toNat_natCast, zpow_neg, zpow_natCast, div_eq_mul_inv]
      push_cast
      rfl

theorem isFinite_nearest_iff {n : Numeral} : n.nearest.isFinite = true ↔ n.size < 2 ^ 1024 - 2 ^ 970 := by
  have hnone : Binary64.ofRatio? n.negative n.ratio.1 n.ratio.2 = none ↔ _ := Binary64.ofRatio?_eq_none_iff n.ratio_pos
  rw [ratio_eq, zpow_ofNat, zpow_ofNat] at hnone
  rw [← not_le, ← hnone, nearest]
  cases Binary64.ofRatio? n.negative n.ratio.1 n.ratio.2 <;> simp [Reading.isFinite]

theorem cast_two_pow_sub {a b : Nat} (h : b ≤ a) : ((Nat.pow 2 a - Nat.pow 2 b : Nat) : ℚ) = 2 ^ a - 2 ^ b := by
  have hle : Nat.pow 2 b ≤ Nat.pow 2 a := Nat.pow_le_pow_right Nat.two_pos h
  rw [Nat.cast_sub hle]
  show ((2 ^ a : Nat) : ℚ) - ((2 ^ b : Nat) : ℚ) = _
  push_cast
  rfl

theorem cast_infiniteFrom : (infiniteFrom : ℚ) = 2 ^ 1024 - 2 ^ 970 := by
  -- the powers are not to be evaluated, so their exponents become variables
  have hle : 970 ≤ 1024 := by decide
  rw [infiniteFrom]
  generalize 1024 = a at *
  generalize 970 = b at *
  exact cast_two_pow_sub hle

theorem isNumeric_eq (text : String) :
    isNumeric text = ((readDouble? text.toList).any Reading.isFinite && text.toList.all isNumberChar) := by
  rw [Bool.eq_iff_iff, isNumeric_iff, IsNumeric, Bool.and_eq_true, Option.any_eq_true, List.all_eq_true]
  constructor
  · rintro ⟨n, hspells, hsize⟩
    rw [cast_infiniteFrom] at hsize
    exact ⟨⟨_, readDouble?_of_spells hspells, isFinite_nearest_iff.2 hsize⟩, hspells.isNumberChar⟩
  · rintro ⟨⟨reading, hreading, hfinite⟩, -⟩
    obtain ⟨n, hspells, rfl⟩ := exists_spells_of_isFinite hreading hfinite
    refine ⟨n, hspells, ?_⟩
    rw [cast_infiniteFrom]
    exact isFinite_nearest_iff.1 hfinite

theorem roundsTo_of_nearest {n : Numeral} {value : Binary64} (h : n.nearest = .finite value) :
    value.RoundsTo n.size := by
  rw [nearest] at h
  split at h
  · next hratio =>
      obtain rfl := Reading.finite.inj h
      rw [← ratio_eq]
      exact Binary64.roundsTo_of_ofRatio? n.ratio_pos hratio
  · cases h

/-- The values of constraints are the numbers below the middle between the greatest double and the power of two behind
it. They are what is read as a finite double and has the characters of numbers only, and what is read is nearest. -/
theorem isNumeric_iff_size_lt (text : String) :
    (isNumeric text = true ↔ ∃ n : Numeral, n.Spells text.toList ∧ n.size < 2 ^ 1024 - 2 ^ 970) ∧
      isNumeric text = ((readDouble? text.toList).any Reading.isFinite && text.toList.all isNumberChar) ∧
      ∀ (n : Numeral) (value : Binary64), n.Spells text.toList → readDouble? text.toList = some (.finite value) →
        value.RoundsTo n.size := by
  refine ⟨?_, isNumeric_eq text, ?_⟩
  · rw [isNumeric_iff, IsNumeric, cast_infiniteFrom]
  · intro n value hspells hread
    rw [readDouble?_of_spells hspells] at hread
    exact roundsTo_of_nearest (Option.some.inj hread)

/-- The greatest double, and a number that is a little greater and rounded to it. -/
def greatest : Binary64 := ⟨false, 2 ^ 53 - 1, 971⟩

def beyondGreatest : Numeral := ⟨false, "1".toList, "7976931348623158".toList, 308⟩

theorem isNumeric_iff_size_lt_greatest :
    beyondGreatest.Spells "+1.7976931348623158E308".toList ∧
      readDouble? "+1.7976931348623158E308".toList = some (.finite greatest) ∧
      greatest.RoundsTo beyondGreatest.size ∧
      ∃ n : Numeral, n.Spells "+1.7976931348623158E308".toList ∧ n.size < 2 ^ 1024 - 2 ^ 970 := by
  have hspells : beyondGreatest.Spells "+1.7976931348623158E308".toList :=
    parse?_eq_some_iff.1 (by decide +kernel)
  have hread : readDouble? "+1.7976931348623158E308".toList = some (.finite greatest) := by decide +kernel
  obtain ⟨hiff, -, hrounds⟩ := isNumeric_iff_size_lt "+1.7976931348623158E308"
  exact ⟨hspells, hread, hrounds beyondGreatest greatest hspells hread, hiff.1 (by decide +kernel)⟩

end DomainModel.Numeral

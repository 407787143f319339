import DomainModel.Constraint.Numeral
import DomainModel.Proofs.TextFolding
import Mathlib.Algebra.Order.Field.Basic
import Mathlib.Algebra.Order.Field.Power
import Mathlib.Data.List.TakeWhile
import Mathlib.Data.Rat.Cast.Order
import Mathlib.Tactic.NormNum
import Mathlib.Tactic.Positivity

/-! Which texts are numbers. A whole number is a run of digits with an optional sign; any other number has a point
and an exponent besides, both optional. The readers find exactly these spellings, whatever the number of digits.
Whether the nearest double is finite is a comparison of the size of a number with one bound; it is settled without
the powers of ten that a great exponent would ask for. -/

namespace DomainModel.Numeral

open Text (digitsValue)

/-! ### Whole numbers -/

/-- A sign, which says whether a number is negative, or none. -/
inductive SpellsSign : Bool → List Char → Prop where
  | absent : SpellsSign false []
  | plus : SpellsSign false ['+']
  | minus : SpellsSign true ['-']

/-- A run of digits, which may be empty. -/
def IsDigits (s : List Char) : Prop := ∀ c ∈ s, c.isDigit = true

/-- The whole numbers as texts: a sign or none, and at least one digit. -/
inductive SpellsInteger : Int → List Char → Prop where
  | signed {negative : Bool} {sign digits : List Char} (hsign : SpellsSign negative sign) (hsome : digits ≠ [])
      (hdigits : IsDigits digits) :
      SpellsInteger (if negative then -(digitsValue digits : Int) else digitsValue digits) (sign ++ digits)

theorem isDigit_minus : ('-' : Char).isDigit = false := rfl

theorem isDigit_plus : ('+' : Char).isDigit = false := rfl

/-- A sign is split off from what begins with no sign itself. -/
theorem splitSign_append {negative : Bool} {sign s : List Char} (hsign : SpellsSign negative sign)
    (hminus : s.head? ≠ some '-') (hplus : s.head? ≠ some '+') : splitSign (sign ++ s) = (negative, s) := by
  cases hsign with
  | plus => rfl
  | minus => rfl
  | absent =>
      rw [List.nil_append, splitSign.eq_def]
      split
      · exact absurd rfl hminus
      · exact absurd rfl hplus
      · rfl

theorem exists_sign (s : List Char) :
    ∃ sign, SpellsSign (splitSign s).1 sign ∧ s = sign ++ (splitSign s).2 := by
  fun_cases splitSign s
  case case1 rest => exact ⟨_, .minus, rfl⟩
  case case2 rest => exact ⟨_, .plus, rfl⟩
  case case3 => exact ⟨_, .absent, rfl⟩

theorem IsDigits.head_ne {s : List Char} (h : IsDigits s) {c : Char} (hc : c.isDigit = false) : s.head? ≠ some c := by
  intro hhead
  rw [h c (List.mem_of_mem_head? hhead)] at hc
  cases hc

theorem integer?_eq_some_iff {s : List Char} {n : Int} : integer? s = some n ↔ SpellsInteger n s := by
  have htest (digits : List Char) :
      (!digits.isEmpty && digits.all Char.isDigit) = true ↔ digits ≠ [] ∧ IsDigits digits := by
    simp [IsDigits]
  constructor
  · intro h
    obtain ⟨sign, hsign, hs⟩ := exists_sign s
    rw [integer?] at h
    dsimp only at h
    split at h
    · next hdigits =>
        obtain ⟨hsome, hdigits⟩ := (htest _).1 hdigits
        have hspells := SpellsInteger.signed hsign hsome hdigits
        rwa [← hs, Option.some.inj h] at hspells
    · cases h
  · rintro ⟨hsign, hsome, hdigits⟩
    have hsplit := splitSign_append hsign (hdigits.head_ne isDigit_minus) (hdigits.head_ne isDigit_plus)
    rw [integer?, hsplit]
    exact if_pos ((htest _).2 ⟨hsome, hdigits⟩)

/-- A whole number of 64 bits as a text. -/
def IsInteger64 (text : String) : Prop := ∃ n : Int, SpellsInteger n text.toList ∧ -2 ^ 63 ≤ n ∧ n < 2 ^ 63

theorem isInteger64_iff {text : String} : isInteger64 text = true ↔ IsInteger64 text := by
  rw [isInteger64, IsInteger64]
  simp only [← integer?_eq_some_iff]
  cases integer? text.toList with
  | none => simp
  | some n => simp

/-! ### Numbers with a point and an exponent -/

/-- The digits behind the point; the point may be missing with them. -/
inductive SpellsFraction : List Char → List Char → Prop where
  | absent : SpellsFraction [] []
  | point {digits : List Char} (hdigits : IsDigits digits) : SpellsFraction digits ('.' :: digits)

/-- The exponent at the end; none is zero. -/
inductive SpellsExponent : Int → List Char → Prop where
  | absent : SpellsExponent 0 []
  | present {mark : Char} {n : Int} {s : List Char} (hmark : mark = 'e' ∨ mark = 'E') (hn : SpellsInteger n s) :
      SpellsExponent n (mark :: s)

/-- The numbers as texts: at least one digit before or behind the point. -/
structure Spells (n : Numeral) (s : List Char) : Prop where
  whole : IsDigits n.whole
  some : n.whole ≠ [] ∨ n.fraction ≠ []
  parts : ∃ sign fraction exponent, SpellsSign n.negative sign ∧ SpellsFraction n.fraction fraction ∧
    SpellsExponent n.exponent exponent ∧ s = sign ++ (n.whole ++ (fraction ++ exponent))

theorem exponent?_eq_some_iff {s : List Char} {n : Int} : exponent? s = some n ↔ SpellsExponent n s := by
  constructor
  · intro h
    fun_cases exponent? s
    case case1 =>
      obtain rfl := Option.some.inj h
      exact .absent
    case case2 mark rest hmark =>
      rw [exponent?, if_pos hmark, integer?_eq_some_iff] at h
      simp only [Bool.or_eq_true, beq_iff_eq] at hmark
      exact .present hmark h
    case case3 mark rest hmark =>
      rw [exponent?, if_neg hmark] at h
      cases h
  · intro h
    cases h with
    | absent => rfl
    | present hmark hn =>
        rw [exponent?, if_pos (by simpa using hmark)]
        exact integer?_eq_some_iff.2 hn

theorem SpellsExponent.head {n : Int} {s : List Char} (h : SpellsExponent n s) :
    s = [] ∨ s.head? = some 'e' ∨ s.head? = some 'E' := by
  cases h with
  | absent => exact .inl rfl
  | present hmark _ => rcases hmark with rfl | rfl <;> simp

/-- What stands behind the whole digits begins with none. -/
theorem head_behind {digits fraction exponent : List Char} {n : Int} (hfraction : SpellsFraction digits fraction)
    (hexponent : SpellsExponent n exponent) : ∀ c ∈ (fraction ++ exponent).head?, c.isDigit = false := by
  cases hfraction with
  | absent => rcases hexponent.head with rfl | h | h <;> simp [*]
  | point _ => simp

/-- Without its sign a number begins with a digit or the point. -/
theorem head_unsigned {whole digits fraction : List Char} (hwhole : IsDigits whole) (hsome : whole ≠ [] ∨ digits ≠ [])
    (hfraction : SpellsFraction digits fraction) (exponent : List Char) :
    ∀ c ∈ (whole ++ (fraction ++ exponent)).head?, c.isDigit = true ∨ c = '.' := by
  intro c hc
  cases whole with
  | cons d whole =>
      obtain rfl : d = c := Option.some.inj hc
      exact .inl (hwhole d List.mem_cons_self)
  | nil =>
      cases hfraction with
      | absent => simp at hsome
      | point _ => exact .inr (Option.some.inj hc).symm

/-- What the reader takes for the digits behind the point, and what is left. -/
def splitFraction : List Char → List Char × List Char
  | '.' :: rest => (rest.takeWhile Char.isDigit, rest.dropWhile Char.isDigit)
  | s => ([], s)

theorem parse?_eq (s : List Char) :
    parse? s =
      let (negative, s) := splitSign s
      let whole := s.takeWhile Char.isDigit
      let (fraction, s) := splitFraction (s.dropWhile Char.isDigit)
      if whole.isEmpty && fraction.isEmpty then none
      else (exponent? s).map fun exponent => ⟨negative, whole, fraction, exponent⟩ := by
  rw [parse?]
  rcases splitSign s with ⟨negative, s⟩
  dsimp only
  generalize s.dropWhile Char.isDigit = rest
  fun_cases splitFraction rest
  case case1 rest => rfl
  case case2 hpoint =>
    split
    · exact absurd rfl (hpoint _)
    · rfl

theorem splitFraction_append {digits fraction exponent : List Char} {n : Int} (hfraction : SpellsFraction digits fraction)
    (hexponent : SpellsExponent n exponent) : splitFraction (fraction ++ exponent) = (digits, exponent) := by
  have hhead := hexponent.head
  cases hfraction with
  | absent =>
      rw [List.nil_append, splitFraction.eq_def]
      split
      · simp at hhead
      · rfl
  | point hdigits =>
      have hexponent : ∀ c ∈ exponent.head?, c.isDigit = false := by
        rcases hhead with rfl | h | h <;> simp [*]
      obtain ⟨htake, hdrop⟩ := Text.takeWhile_append_run hdigits hexponent
      rw [List.cons_append, splitFraction, htake, hdrop]

theorem exists_fraction (s : List Char) :
    ∃ fraction, SpellsFraction (splitFraction s).1 fraction ∧ s = fraction ++ (splitFraction s).2 := by
  fun_cases splitFraction s
  case case1 rest =>
    refine ⟨_, .point fun c hc => ?_, ?_⟩
    · exact List.mem_takeWhile_imp hc
    · rw [List.cons_append, List.takeWhile_append_dropWhile]
  case case2 => exact ⟨[], .absent, rfl⟩

theorem parse?_eq_some_iff {s : List Char} {n : Numeral} : parse? s = some n ↔ n.Spells s := by
  rw [parse?_eq]
  constructor
  · intro h
    obtain ⟨sign, hsign, hs⟩ := exists_sign s
    obtain ⟨fraction, hfraction, hrest⟩ := exists_fraction ((splitSign s).2.dropWhile Char.isDigit)
    dsimp only at h
    split at h
    · cases h
    · next hsome =>
        obtain ⟨exponent, hexponent, rfl⟩ := Option.map_eq_some_iff.1 h
        refine ⟨fun c hc => List.mem_takeWhile_imp hc, ?_, sign, fraction, _, hsign, hfraction,
          exponent?_eq_some_iff.1 hexponent, ?_⟩
        · rwa [Bool.and_eq_true, Classical.not_and_iff_not_or_not, List.isEmpty_iff, List.isEmpty_iff] at hsome
        · rw [← hrest, List.takeWhile_append_dropWhile, ← hs]
  · intro h
    obtain ⟨negative, whole, digits, power⟩ := n
    obtain ⟨hwhole, hsome, sign, fraction, exponent, hsign, hfraction, hexponent, rfl⟩ := h
    dsimp only at hwhole hsome hsign hfraction hexponent ⊢
    obtain ⟨htake, hdrop⟩ := Text.takeWhile_append_run hwhole (head_behind hfraction hexponent)
    have hfirst := head_unsigned hwhole hsome hfraction exponent
    rw [splitSign_append hsign (fun hc => ?_) (fun hc => ?_)]
    · dsimp only
      rw [htake, hdrop, splitFraction_append hfraction hexponent]
      dsimp only
      rw [if_neg, exponent?_eq_some_iff.2 hexponent, Option.map_some]
      rwa [Bool.and_eq_true, Classical.not_and_iff_not_or_not, List.isEmpty_iff, List.isEmpty_iff]
    · exact absurd (hfirst _ hc) (by decide)
    · exact absurd (hfirst _ hc) (by decide)

/-! ### The nearest double -/

/-- The size of a number, its sign apart. -/
def size (n : Numeral) : ℚ := n.coefficient * 10 ^ n.power

theorem toNat_le_of_isDigit {c : Char} (h : c.isDigit = true) : c.toNat ≤ 57 := by
  simp only [Char.isDigit, Bool.and_eq_true, decide_eq_true_eq, ge_iff_le, UInt32.le_iff_toNat_le] at h
  exact h.2

theorem digitsValue_lt {digits : List Char} (h : IsDigits digits) : digitsValue digits < 10 ^ digits.length := by
  induction digits using List.reverseRecOn with
  | nil => decide
  | append_singleton digits c ih =>
      obtain ⟨hdigits, hc⟩ := List.forall_mem_append.1 h
      have hlast : Text.digitValue c < 10 := by
        have hnine := toNat_le_of_isDigit (hc c (List.mem_singleton_self c))
        have hzero : ('0' : Char).toNat = 48 := rfl
        rw [Text.digitValue, hzero]
        omega
      have hbefore := ih hdigits
      rw [Text.digitsValue_concat, List.length_append, List.length_singleton, pow_succ]
      omega

theorem lt_infiniteFrom : 10 ^ 308 < infiniteFrom := by decide +kernel

theorem infiniteFrom_lt : infiniteFrom < 10 ^ 309 := by decide +kernel

theorem cast_pow_lt_infiniteFrom : (10 : ℚ) ^ 308 < infiniteFrom := by exact_mod_cast lt_infiniteFrom

section Size
variable {n : Numeral}

theorem size_of_coefficient_eq_zero (hzero : n.coefficient = 0) : n.size = 0 := by
  rw [size, hzero, Nat.cast_zero, zero_mul]

/-- Any digit but zero in front of so great a power of ten is too much. -/
theorem infiniteFrom_le_size (hsome : n.coefficient ≠ 0) (hgreat : 308 < n.power) : infiniteFrom ≤ n.size := by
  have hone : (1 : ℚ) ≤ n.coefficient := by exact_mod_cast Nat.one_le_iff_ne_zero.2 hsome
  calc (infiniteFrom : ℚ) ≤ 10 ^ (309 : ℤ) := by exact_mod_cast infiniteFrom_lt.le
    _ ≤ 10 ^ n.power := zpow_le_zpow_right₀ (by norm_num) (by omega)
    _ ≤ n.coefficient * 10 ^ n.power := le_mul_of_one_le_left (by positivity) hone

theorem size_lt_iff_of_nonneg {k : Nat} (hk : n.power = k) :
    n.size < infiniteFrom ↔ n.coefficient * 10 ^ k < infiniteFrom := by
  have hsize : n.size = ((n.coefficient * 10 ^ k : Nat) : ℚ) := by
    rw [size, hk, zpow_natCast]
    push_cast
    rfl
  rw [hsize, Nat.cast_lt]

theorem size_lt_iff_of_neg {k : Nat} (hk : n.power = -k) :
    n.size < infiniteFrom ↔ n.coefficient < infiniteFrom * 10 ^ k := by
  have hscaled : (infiniteFrom : ℚ) * 10 ^ k = ((infiniteFrom * 10 ^ k : Nat) : ℚ) := by
    push_cast
    rfl
  rw [size, hk, zpow_neg, zpow_natCast, ← div_eq_mul_inv, div_lt_iff₀ (by positivity), hscaled, Nat.cast_lt]

/-- The digits do not make up for so small a power of ten. -/
theorem size_lt_of_few (hdigits : IsDigits (n.whole ++ n.fraction)) {k : Nat} (hk : n.power = -k)
    (hfew : n.whole.length + n.fraction.length ≤ 308 + k) : n.size < infiniteFrom := by
  have hlength : n.coefficient < 10 ^ (308 + k) := by
    refine (digitsValue_lt hdigits).trans_le (Nat.pow_le_pow_right (by decide) ?_)
    rwa [List.length_append]
  have hcoefficient : (n.coefficient : ℚ) < 10 ^ (308 + k) := by exact_mod_cast hlength
  rw [size, hk]
  calc (n.coefficient : ℚ) * 10 ^ (-(k : ℤ)) < 10 ^ (308 + k) * 10 ^ (-(k : ℤ)) := by gcongr
    _ = 10 ^ 308 := by rw [pow_add, zpow_neg, zpow_natCast, mul_assoc, mul_inv_cancel₀ (by positivity), mul_one]
    _ < infiniteFrom := cast_pow_lt_infiniteFrom

theorem isFinite_iff (hdigits : IsDigits (n.whole ++ n.fraction)) : n.isFinite = true ↔ n.size < infiniteFrom := by
  rw [isFinite]
  split
  · next hzero =>
      rw [size_of_coefficient_eq_zero (eq_of_beq hzero)]
      exact iff_of_true rfl ((by positivity : (0 : ℚ) < 10 ^ 308).trans cast_pow_lt_infiniteFrom)
  next hsome =>
  split
  · next hgreat => exact iff_of_false Bool.false_ne_true (not_lt.2 (infiniteFrom_le_size (by simpa using hsome) hgreat))
  split
  · next hwhole =>
      obtain ⟨k, hk⟩ := Int.eq_ofNat_of_zero_le hwhole
      rw [size_lt_iff_of_nonneg hk, hk, Int.toNat_natCast, decide_eq_true_iff]
      rfl
  next hnegative =>
  obtain ⟨k, hk⟩ : ∃ k : Nat, n.power = -(k : Int) := ⟨(-n.power).toNat, by omega⟩
  rw [hk, neg_neg, Int.toNat_natCast]
  split
  · next hfew => exact iff_of_true rfl (size_lt_of_few hdigits hk hfew)
  · rw [size_lt_iff_of_neg hk, decide_eq_true_iff]
    rfl

end Size

/-- A number as a text that is not so large that the nearest double is infinite. -/
def IsNumeric (text : String) : Prop := ∃ n : Numeral, n.Spells text.toList ∧ n.size < infiniteFrom

theorem Spells.isDigits {n : Numeral} {s : List Char} (h : n.Spells s) : IsDigits (n.whole ++ n.fraction) := by
  obtain ⟨sign, fraction, exponent, -, hfraction, -⟩ := h.parts
  refine List.forall_mem_append.2 ⟨h.whole, ?_⟩
  generalize n.fraction = digits at hfraction
  cases hfraction with
  | absent => exact fun c hc => absurd hc List.not_mem_nil
  | point hdigits => exact hdigits

theorem isNumeric_iff {text : String} : isNumeric text = true ↔ IsNumeric text := by
  rw [isNumeric, Option.any_eq_true]
  constructor
  · rintro ⟨n, hn, hfinite⟩
    have hspells := parse?_eq_some_iff.1 hn
    exact ⟨n, hspells, (isFinite_iff hspells.isDigits).1 hfinite⟩
  · rintro ⟨n, hspells, hsize⟩
    exact ⟨n, parse?_eq_some_iff.2 hspells, (isFinite_iff hspells.isDigits).2 hsize⟩

end DomainModel.Numeral

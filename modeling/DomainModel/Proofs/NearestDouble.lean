import DomainModel.Number.Binary64
import Mathlib.Algebra.Order.Field.Basic
import Mathlib.Algebra.Order.Field.Power
import Mathlib.Data.Rat.Cast.Order
import Mathlib.Tactic.FieldSimp
import Mathlib.Tactic.Linarith
import Mathlib.Tactic.NormNum
import Mathlib.Tactic.Positivity
import Mathlib.Tactic.Ring

/-! The double nearest to a fraction. A fraction lies between two neighbouring powers of two, which fixes the exponent
of the double; its significand is the nearest whole number of units in the last place, a half going to the even one.
No double is nearer to the fraction. The nearest double is infinite exactly from the middle between the greatest double
and the power of two behind it, as that middle goes to the even neighbour, which is the power of two. -/

namespace DomainModel.Binary64

/-! ### Fractions and powers of two -/

section Fractions
variable {n d : Nat}

theorem scaled_pos (hd : 0 < d) (n : Nat) (e : Int) : 0 < (scaled n d e).2 := by
  rw [scaled]
  split
  · exact hd
  · exact Nat.mul_pos hd (Nat.pow_pos Nat.two_pos)

theorem scaled_eq (n d : Nat) (e : Int) : ((scaled n d e).1 : ℚ) / (scaled n d e).2 = n / d * 2 ^ e := by
  rw [scaled]
  split
  · next he =>
      obtain ⟨k, rfl⟩ := Int.eq_ofNat_of_zero_le he
      show ((n * 2 ^ k : Nat) : ℚ) / d = _
      rw [zpow_natCast]
      push_cast
      ring
  · next he =>
      obtain ⟨k, rfl⟩ : ∃ k : Nat, e = -(k : Int) := ⟨(-e).toNat, by omega⟩
      show (n : ℚ) / ((d * 2 ^ (- -(k : Int)).toNat : Nat) : ℚ) = _
      rw [neg_neg, Int.toNat_natCast, zpow_neg, zpow_natCast]
      push_cast
      rw [div_mul_eq_div_div, div_eq_mul_inv (_ / _)]

theorem two_zpow_pos (e : Int) : (0 : ℚ) < 2 ^ e := zpow_pos two_pos e

theorem two_zpow_le {e f : Int} (h : e ≤ f) : (2 : ℚ) ^ e ≤ 2 ^ f := zpow_le_zpow_right₀ one_le_two h

/-- The size of a number in binary digits is the exponent of the power of two below it. -/
theorem two_zpow_log2 (hn : 0 < n) : (2 : ℚ) ^ (n.log2 : Int) ≤ n ∧ (n : ℚ) < 2 ^ ((n.log2 : Int) + 1) := by
  constructor
  · rw [zpow_natCast]
    exact_mod_cast Nat.log2_self_le hn.ne'
  · have hlt : n < 2 ^ (n.log2 + 1) := Nat.lt_log2_self
    exact_mod_cast hlt

theorem binaryOrder_spec (hn : 0 < n) (hd : 0 < d) :
    (2 : ℚ) ^ binaryOrder n d ≤ n / d ∧ (n / d : ℚ) < 2 ^ (binaryOrder n d + 1) := by
  obtain ⟨hnle, hnlt⟩ := two_zpow_log2 hn
  obtain ⟨hdle, hdlt⟩ := two_zpow_log2 hd
  have hd' : (0 : ℚ) < d := by exact_mod_cast hd
  set estimate : Int := (n.log2 : Int) - d.log2 with hestimate
  -- the estimate is at most one too great
  have hupper : (n / d : ℚ) < 2 ^ (estimate + 1) := by
    rw [div_lt_iff₀ hd']
    calc (n : ℚ) < 2 ^ ((n.log2 : Int) + 1) := hnlt
      _ = 2 ^ (estimate + 1) * 2 ^ (d.log2 : Int) := by rw [← zpow_add₀ two_ne_zero]; congr 1; omega
      _ ≤ 2 ^ (estimate + 1) * d := by gcongr
  have hlower : (2 : ℚ) ^ (estimate - 1) ≤ n / d := by
    rw [le_div_iff₀ hd']
    calc (2 : ℚ) ^ (estimate - 1) * d ≤ 2 ^ (estimate - 1) * 2 ^ ((d.log2 : Int) + 1) := by gcongr
      _ = 2 ^ (n.log2 : Int) := by rw [← zpow_add₀ two_ne_zero]; congr 1; omega
      _ ≤ n := hnle
  have htest : (scaled n d (-estimate)).2 ≤ (scaled n d (-estimate)).1 ↔ (2 : ℚ) ^ estimate ≤ n / d := by
    have hpos : (0 : ℚ) < (scaled n d (-estimate)).2 := by exact_mod_cast scaled_pos hd n (-estimate)
    rw [← Nat.cast_le (α := ℚ), ← one_le_div hpos, scaled_eq, zpow_neg, ← div_eq_mul_inv, one_le_div (two_zpow_pos _)]
  show (2 : ℚ) ^ (if (scaled n d (-estimate)).2 ≤ (scaled n d (-estimate)).1 then estimate else estimate - 1) ≤ n / d ∧
    (n / d : ℚ) < 2 ^ ((if (scaled n d (-estimate)).2 ≤ (scaled n d (-estimate)).1 then estimate else estimate - 1) + 1)
  split
  · next hle => exact ⟨htest.1 hle, hupper⟩
  · next hlt =>
      refine ⟨hlower, ?_⟩
      rw [sub_add_cancel]
      exact not_le.1 fun hle => hlt (htest.2 hle)

/-! ### Nearest whole numbers -/

/-- The whole number is nearest to the fraction, and it is even where another one is as near. -/
theorem divideToEven_spec (hd : 0 < d) (n : Nat) :
    |(n / d : ℚ) - divideToEven n d| ≤ 1 / 2 ∧
      (|(n / d : ℚ) - divideToEven n d| = 1 / 2 → divideToEven n d % 2 = 0) := by
  have hd' : (0 : ℚ) < d := by exact_mod_cast hd
  -- the fraction is its floor and a rest below one
  have hfloor : (n / d : ℚ) = (n / d : Nat) + (n % d : Nat) / d := by
    have hdivide : (d : ℚ) * (n / d : Nat) + (n % d : Nat) = n := by exact_mod_cast Nat.div_add_mod n d
    rw [← hdivide]
    field_simp
  have hrest : ((n % d : Nat) : ℚ) / d < 1 := by
    rw [div_lt_one hd']
    exact_mod_cast Nat.mod_lt n hd
  have hnonneg : (0 : ℚ) ≤ (n % d : Nat) / d := by positivity
  have hbelow : 2 * (n % d) < d ↔ ((n % d : Nat) : ℚ) / d < 1 / 2 := by
    rw [div_lt_div_iff₀ hd' two_pos, ← Nat.cast_lt (α := ℚ)]
    push_cast
    rw [one_mul, mul_comm]
  have habove : d < 2 * (n % d) ↔ 1 / 2 < ((n % d : Nat) : ℚ) / d := by
    rw [div_lt_div_iff₀ two_pos hd', ← Nat.cast_lt (α := ℚ)]
    push_cast
    rw [one_mul, mul_comm _ (2 : ℚ)]
  rw [divideToEven, hfloor]
  simp only [hbelow, habove, beq_iff_eq]
  generalize ((n % d : Nat) : ℚ) / d = rest at *
  generalize n / d = floor at *
  have hdown : (floor + rest : ℚ) - floor = rest := add_sub_cancel_left _ _
  have hup : (floor + rest : ℚ) - (floor + 1 : Nat) = -(1 - rest) := by
    push_cast
    ring
  split_ifs with hlow hhigh heven
  · rw [hdown, abs_of_nonneg hnonneg]
    exact ⟨hlow.le, fun htie => absurd htie hlow.ne⟩
  · rw [hup, abs_neg, abs_of_pos (by linarith)]
    exact ⟨by linarith, fun htie => by linarith⟩
  · rw [hdown, abs_of_nonneg hnonneg]
    exact ⟨not_lt.1 hhigh, fun _ => heven⟩
  · rw [hup, abs_neg, abs_of_pos (by linarith)]
    exact ⟨by linarith, fun _ => by omega⟩

/-- The distances to two whole numbers add up to one at least. -/
theorem one_le_abs_add_abs (x : ℚ) {k l : Int} (hne : k ≠ l) : 1 ≤ |x - k| + |x - l| := by
  have hapart : (1 : ℚ) ≤ |(k : ℚ) - l| := by exact_mod_cast Int.one_le_abs (sub_ne_zero.2 hne)
  have htriangle := abs_sub_le (k : ℚ) x l
  rw [abs_sub_comm (k : ℚ) x] at htriangle
  exact hapart.trans htriangle

/-- No whole number is nearer to the fraction. -/
theorem abs_sub_divideToEven_le (hd : 0 < d) (n : Nat) (k : Int) :
    |(n / d : ℚ) - divideToEven n d| ≤ |(n / d : ℚ) - k| := by
  by_cases hk : k = divideToEven n d
  · rw [hk, Int.cast_natCast]
  · have hapart := one_le_abs_add_abs (n / d : ℚ) hk
    rw [Int.cast_natCast] at hapart
    have hnear := (divideToEven_spec hd n).1
    linarith

/-- Where another whole number is as near to the fraction, the one that is taken is even. -/
theorem even_divideToEven (hd : 0 < d) (n : Nat) {k : Int} (hk : k ≠ divideToEven n d)
    (htie : |(n / d : ℚ) - k| = |(n / d : ℚ) - divideToEven n d|) : divideToEven n d % 2 = 0 := by
  have hapart := one_le_abs_add_abs (n / d : ℚ) hk
  rw [htie, Int.cast_natCast] at hapart
  obtain ⟨hnear, heven⟩ := divideToEven_spec hd n
  exact heven (by linarith)

/-- An even number is reached from half a unit below it on. -/
theorem le_divideToEven_iff (hd : 0 < d) {m : Nat} (hm : m % 2 = 0) :
    m ≤ divideToEven n d ↔ (m : ℚ) - 1 / 2 ≤ n / d := by
  obtain ⟨hnear, heven⟩ := divideToEven_spec hd n
  have hbounds := abs_le.1 hnear
  constructor
  · intro hle
    have hle' : (m : ℚ) ≤ divideToEven n d := by exact_mod_cast hle
    linarith
  · intro hle
    by_contra hlt
    have hbelow : divideToEven n d + 1 ≤ m := Nat.lt_of_not_le hlt
    have hbelow' : (divideToEven n d : ℚ) + 1 ≤ m := by exact_mod_cast hbelow
    -- then the fraction is in the middle between the number and its predecessor, which is odd
    have hmiddle : (n / d : ℚ) - divideToEven n d = 1 / 2 := by linarith
    have hpredecessor : divideToEven n d + 1 = m := by
      have heq : (divideToEven n d : ℚ) + 1 = m := by linarith
      exact_mod_cast heq
    have hparity := heven (by rw [hmiddle, abs_of_pos one_half_pos])
    omega

/-! ### Units in the last place -/

/-- The exponent of the last place of the double nearest to a fraction. -/
def lastPlace (n d : Nat) : Int := max (binaryOrder n d - 52) minExponent

/-- The whole number of units in the last place that is nearest to a fraction. -/
def units (n d : Nat) : Nat :=
  divideToEven (scaled n d (-lastPlace n d)).1 (scaled n d (-lastPlace n d)).2

/-- The fraction is less than `2 ^ 53` units. -/
theorem scaled_lt (hn : 0 < n) (hd : 0 < d) : (n / d * 2 ^ (-lastPlace n d) : ℚ) < 2 ^ (53 : ℤ) := by
  have hplace : binaryOrder n d + 1 ≤ 53 + lastPlace n d := by
    rw [lastPlace]
    omega
  rw [zpow_neg, ← div_eq_mul_inv, div_lt_iff₀ (two_zpow_pos _), ← zpow_add₀ two_ne_zero]
  exact (binaryOrder_spec hn hd).2.trans_le (two_zpow_le hplace)

/-- Above the least exponent the fraction is at least `2 ^ 52` units. -/
theorem le_scaled (hn : 0 < n) (hd : 0 < d) (hplace : minExponent < lastPlace n d) :
    (2 : ℚ) ^ (52 : ℤ) ≤ n / d * 2 ^ (-lastPlace n d) := by
  have horder : 52 + lastPlace n d = binaryOrder n d := by
    rw [lastPlace] at hplace ⊢
    omega
  rw [zpow_neg, ← div_eq_mul_inv, le_div_iff₀ (two_zpow_pos _), ← zpow_add₀ two_ne_zero, horder]
  exact (binaryOrder_spec hn hd).1

theorem abs_sub_units_le (hd : 0 < d) (n : Nat) (k : Int) :
    |(n / d * 2 ^ (-lastPlace n d) : ℚ) - units n d| ≤ |(n / d * 2 ^ (-lastPlace n d) : ℚ) - k| := by
  rw [← scaled_eq]
  exact abs_sub_divideToEven_le (scaled_pos hd n _) _ k

theorem even_units (hd : 0 < d) (n : Nat) {k : Int} (hk : k ≠ units n d)
    (htie : |(n / d * 2 ^ (-lastPlace n d) : ℚ) - k| = |(n / d * 2 ^ (-lastPlace n d) : ℚ) - units n d|) :
    units n d % 2 = 0 := by
  rw [← scaled_eq] at htie
  exact even_divideToEven (scaled_pos hd n _) _ hk htie

theorem le_units_iff (hd : 0 < d) (n : Nat) {m : Nat} (hm : m % 2 = 0) :
    m ≤ units n d ↔ (m : ℚ) - 1 / 2 ≤ n / d * 2 ^ (-lastPlace n d) := by
  rw [← scaled_eq]
  exact le_divideToEven_iff (scaled_pos hd n _) hm

theorem units_le (hn : 0 < n) (hd : 0 < d) : units n d ≤ 2 ^ 53 := by
  have hlt : (n / d * 2 ^ (-lastPlace n d) : ℚ) < 2 ^ 53 := by exact_mod_cast scaled_lt hn hd
  have hnear := abs_sub_units_le hd n (2 ^ 53)
  rw [Int.cast_pow, Int.cast_ofNat, abs_of_neg (sub_neg.2 hlt), abs_sub_comm] at hnear
  have hle : (units n d : ℚ) ≤ 2 ^ 53 := by linarith [le_abs_self ((units n d : ℚ) - n / d * 2 ^ (-lastPlace n d))]
  exact_mod_cast hle

end Fractions

/-! ### Doubles -/

/-- The size of a double, its sign apart. -/
def size (a : Binary64) : ℚ := a.significand * 2 ^ a.exponent

/-- The finite doubles. -/
structure IsFinite (a : Binary64) : Prop where
  significand : a.significand < 2 ^ 53
  least : minExponent ≤ a.exponent
  greatest : a.exponent ≤ maxExponent

/-- The double is nearest to `x`; where another one is as near, its significand is even. -/
structure RoundsTo (x : ℚ) (a : Binary64) : Prop where
  finite : a.IsFinite
  nearest : ∀ b, IsFinite b → |x - a.size| ≤ |x - b.size|
  even : ∀ b, IsFinite b → |x - b.size| = |x - a.size| → b.size ≠ a.size → a.significand % 2 = 0

/-- A number of units as a double; `2 ^ 53` of them are carried over. -/
def ofUnits (negative : Bool) (units : Nat) (exponent : Int) : Binary64 :=
  if units == Nat.pow 2 53 then ⟨negative, Nat.pow 2 52, exponent + 1⟩ else ⟨negative, units, exponent⟩

theorem size_ofUnits (negative : Bool) (units : Nat) (exponent : Int) :
    (ofUnits negative units exponent).size = units * 2 ^ exponent := by
  rw [ofUnits]
  split
  · next hcarry =>
      rw [beq_iff_eq.1 hcarry]
      show ((2 ^ 52 : Nat) : ℚ) * 2 ^ (exponent + 1) = ((2 ^ 53 : Nat) : ℚ) * 2 ^ exponent
      rw [zpow_add₀ two_ne_zero]
      push_cast
      ring
  · rfl

theorem isFinite_ofUnits {negative : Bool} {units : Nat} {exponent : Int} (hunits : units ≤ 2 ^ 53)
    (hleast : minExponent ≤ exponent) (hgreatest : (ofUnits negative units exponent).exponent ≤ maxExponent) :
    (ofUnits negative units exponent).IsFinite := by
  refine ⟨?_, ?_, hgreatest⟩ <;> rw [ofUnits] <;> split
  · show 2 ^ 52 < 2 ^ 53
    decide
  · next hcarry => exact lt_of_le_of_ne hunits (by simpa using hcarry)
  · exact hleast.trans (Int.le_add_one le_rfl)
  · exact hleast

theorem even_significand_ofUnits {units : Nat} (heven : units % 2 = 0) (negative : Bool) (exponent : Int) :
    (ofUnits negative units exponent).significand % 2 = 0 := by
  rw [ofUnits]
  split
  · show 2 ^ 52 % 2 = 0
    decide
  · exact heven

theorem exponent_ofUnits (negative : Bool) (units : Nat) (exponent : Int) :
    (ofUnits negative units exponent).exponent = if units = 2 ^ 53 then exponent + 1 else exponent := by
  rw [ofUnits]
  by_cases hcarry : units = 2 ^ 53
  · have hbeq : (units == Nat.pow 2 53) = true := beq_iff_eq.2 hcarry
    rw [if_pos hcarry, if_pos hbeq]
  · have hbeq : ¬ (units == Nat.pow 2 53) = true := fun h => hcarry (beq_iff_eq.1 h)
    rw [if_neg hcarry, if_neg hbeq]

section Nearest
variable {n d : Nat} {negative : Bool}

theorem ofRatio?_eq (hn : 0 < n) :
    ofRatio? negative n d =
      if maxExponent < (ofUnits negative (units n d) (lastPlace n d)).exponent then none
      else some (ofUnits negative (units n d) (lastPlace n d)) := by
  rw [ofRatio?, if_neg (by simpa using hn.ne')]
  rfl

theorem ofRatio?_eq_none_iff_lt (hn : 0 < n) :
    ofRatio? negative n d = none ↔ maxExponent < (ofUnits negative (units n d) (lastPlace n d)).exponent := by
  rw [ofRatio?_eq hn, ite_eq_left_iff]
  exact ⟨fun h => by_contra fun hle => Option.some_ne_none _ (h hle), fun h hle => absurd h hle⟩

/-- Distances in units in a place. -/
theorem abs_sub_mul_zpow (x m : ℚ) (e : Int) : |x - m * 2 ^ e| = |x * 2 ^ (-e) - m| * 2 ^ e := by
  have hscale : (x * 2 ^ (-e) - m) * 2 ^ e = x - m * 2 ^ e := by
    rw [sub_mul, mul_assoc, ← zpow_add₀ two_ne_zero, neg_add_cancel, zpow_zero, mul_one]
  rw [← hscale, abs_mul, abs_of_pos (two_zpow_pos e)]

/-- A double whose last place is not lower is a whole number of units. -/
theorem exists_size_eq {b : Binary64} {e : Int} (he : e ≤ b.exponent) : ∃ k : Int, b.size = k * 2 ^ e := by
  obtain ⟨i, hi⟩ := Int.eq_ofNat_of_zero_le (sub_nonneg.2 he)
  refine ⟨b.significand * 2 ^ i, ?_⟩
  have hexponent : b.exponent = i + e := by omega
  rw [size, hexponent, zpow_add₀ two_ne_zero, zpow_natCast]
  push_cast
  ring

/-- A double whose last place is lower is less than `2 ^ 52` units. -/
theorem size_lt {b : Binary64} (hb : b.IsFinite) {e : Int} (he : b.exponent < e) : b.size < 2 ^ (52 : ℤ) * 2 ^ e := by
  have hsignificand : (b.significand : ℚ) < 2 ^ (53 : ℤ) := by exact_mod_cast hb.significand
  calc b.size < 2 ^ (53 : ℤ) * 2 ^ b.exponent := by
        rw [size]
        exact mul_lt_mul_of_pos_right hsignificand (two_zpow_pos _)
    _ = 2 ^ (53 + b.exponent) := (zpow_add₀ two_ne_zero _ _).symm
    _ ≤ 2 ^ (52 + e) := two_zpow_le (by omega)
    _ = 2 ^ (52 : ℤ) * 2 ^ e := zpow_add₀ two_ne_zero _ _

/-- Doubles with a lower last place are farther away than the nearest number of units. -/
theorem abs_sub_units_lt (hn : 0 < n) (hd : 0 < d) {b : Binary64} (hb : b.IsFinite) (he : b.exponent < lastPlace n d) :
    |(n / d : ℚ) - units n d * 2 ^ lastPlace n d| < |(n / d : ℚ) - b.size| := by
  have hplace : minExponent < lastPlace n d := hb.least.trans_lt he
  have hle : (2 : ℚ) ^ (52 : ℤ) * 2 ^ lastPlace n d ≤ n / d := by
    have hunits := le_scaled hn hd hplace
    rwa [zpow_neg, ← div_eq_mul_inv, le_div_iff₀ (two_zpow_pos _)] at hunits
  have hnear := abs_sub_units_le hd n (2 ^ 52)
  calc |(n / d : ℚ) - units n d * 2 ^ lastPlace n d|
      = |(n / d * 2 ^ (-lastPlace n d) : ℚ) - units n d| * 2 ^ lastPlace n d := abs_sub_mul_zpow _ _ _
    _ ≤ |(n / d * 2 ^ (-lastPlace n d) : ℚ) - (2 ^ 52 : Int)| * 2 ^ lastPlace n d :=
        mul_le_mul_of_nonneg_right hnear (two_zpow_pos _).le
    _ = |(n / d : ℚ) - (2 ^ 52 : Int) * 2 ^ lastPlace n d| := (abs_sub_mul_zpow _ _ _).symm
    _ = (n / d : ℚ) - 2 ^ (52 : ℤ) * 2 ^ lastPlace n d := by
        rw [Int.cast_pow, Int.cast_ofNat]
        exact abs_of_nonneg (sub_nonneg.2 hle)
    _ < n / d - b.size := sub_lt_sub_left (size_lt hb he) _
    _ ≤ |(n / d : ℚ) - b.size| := le_abs_self _

theorem roundsTo_zero (negative : Bool) : RoundsTo 0 (zero negative) := by
  have hsize : (zero negative).size = 0 := by
    show ((0 : Nat) : ℚ) * _ = 0
    rw [Nat.cast_zero, zero_mul]
  have hfinite : (zero negative).IsFinite :=
    ⟨show 0 < 2 ^ 53 by decide, le_refl minExponent, show minExponent ≤ maxExponent by decide⟩
  refine ⟨hfinite, fun b _ => ?_, fun _ _ _ _ => rfl⟩
  rw [hsize, sub_zero, abs_zero]
  exact abs_nonneg _

/-- No double is nearer to a fraction than the nearest number of units in its last place. -/
theorem abs_sub_size_ofUnits_le (hn : 0 < n) (hd : 0 < d) {b : Binary64} (hb : b.IsFinite) :
    |(n / d : ℚ) - (ofUnits negative (units n d) (lastPlace n d)).size| ≤ |(n / d : ℚ) - b.size| := by
  rw [size_ofUnits]
  by_cases hplace : lastPlace n d ≤ b.exponent
  · obtain ⟨k, hk⟩ := exists_size_eq hplace
    rw [hk, abs_sub_mul_zpow, abs_sub_mul_zpow _ (k : ℚ)]
    exact mul_le_mul_of_nonneg_right (abs_sub_units_le hd n k) (two_zpow_pos _).le
  · exact (abs_sub_units_lt hn hd hb (not_le.1 hplace)).le

/-- Another double that is as near is a whole number of units too, so the number that is taken is even. -/
theorem even_of_tie (hn : 0 < n) (hd : 0 < d) {b : Binary64} (hb : b.IsFinite)
    (htie : |(n / d : ℚ) - b.size| = |(n / d : ℚ) - (ofUnits negative (units n d) (lastPlace n d)).size|)
    (hne : b.size ≠ (ofUnits negative (units n d) (lastPlace n d)).size) :
    (ofUnits negative (units n d) (lastPlace n d)).significand % 2 = 0 := by
  rw [size_ofUnits] at htie hne
  by_cases hplace : lastPlace n d ≤ b.exponent
  · obtain ⟨k, hk⟩ := exists_size_eq hplace
    rw [hk, abs_sub_mul_zpow, abs_sub_mul_zpow _ (units n d : ℚ)] at htie
    have hother : k ≠ units n d := by
      rintro rfl
      rw [hk, Int.cast_natCast] at hne
      exact hne rfl
    exact even_significand_ofUnits (even_units hd n hother (mul_right_cancel₀ (two_zpow_pos _).ne' htie)) _ _
  · exact absurd htie (abs_sub_units_lt hn hd hb (not_le.1 hplace)).ne'

/-- What is read off a fraction is the double nearest to it. -/
theorem roundsTo_of_ofRatio? {a : Binary64} (hd : 0 < d) (h : ofRatio? negative n d = some a) : RoundsTo (n / d) a := by
  rcases Nat.eq_zero_or_pos n with rfl | hn
  · obtain rfl : zero negative = a := Option.some.inj h
    rw [Nat.cast_zero, zero_div]
    exact roundsTo_zero negative
  · rw [ofRatio?_eq hn] at h
    split at h
    · cases h
    next hgreatest =>
    obtain rfl := Option.some.inj h
    have hleast : minExponent ≤ lastPlace n d := le_max_right _ _
    exact
      { finite := isFinite_ofUnits (units_le hn hd) hleast (not_lt.1 hgreatest)
        nearest := fun _ hb => abs_sub_size_ofUnits_le hn hd hb
        even := fun _ hb htie hne => even_of_tie hn hd hb htie hne }

/-! ### Where doubles end -/

/-- The middle between the greatest double and the power of two behind it. -/
theorem middle_eq : (2 : ℚ) ^ (1024 : ℤ) - 2 ^ (970 : ℤ) = (((2 ^ 53 : Nat) : ℚ) - 1 / 2) * 2 ^ maxExponent := by
  have hlast : (2 : ℚ) ^ (1024 : ℤ) = 2 ^ (53 : ℤ) * 2 ^ (971 : ℤ) := zpow_add₀ two_ne_zero 53 971
  have hhalf : (2 : ℚ) ^ (971 : ℤ) = 2 * 2 ^ (970 : ℤ) := by
    rw [show (971 : ℤ) = 1 + 970 from rfl, zpow_add₀ two_ne_zero, zpow_one]
  have hunits : (2 : ℚ) ^ (53 : ℤ) = ((2 ^ 53 : Nat) : ℚ) := by
    rw [Nat.cast_pow, Nat.cast_ofNat]
    exact zpow_natCast 2 53
  rw [hlast, hunits, maxExponent, sub_mul, one_div_mul_eq_div, hhalf, mul_div_cancel_left₀ _ two_ne_zero]

theorem two_zpow_lt_middle : (2 : ℚ) ^ (1023 : ℤ) < 2 ^ (1024 : ℤ) - 2 ^ (970 : ℤ) := by
  have hdouble : (2 : ℚ) ^ (1024 : ℤ) = 2 * 2 ^ (1023 : ℤ) := by
    rw [show (1024 : ℤ) = 1 + 1023 from rfl, zpow_add₀ two_ne_zero, zpow_one]
  have hless : (2 : ℚ) ^ (970 : ℤ) < 2 ^ (1023 : ℤ) := zpow_lt_zpow_right₀ one_lt_two (by decide)
  rw [hdouble, two_mul, lt_sub_iff_add_lt]
  exact add_lt_add_right hless _

/-- The nearest double is infinite exactly from that middle on. -/
theorem ofRatio?_eq_none_iff (hd : 0 < d) :
    ofRatio? negative n d = none ↔ (2 : ℚ) ^ (1024 : ℤ) - 2 ^ (970 : ℤ) ≤ n / d := by
  rcases Nat.eq_zero_or_pos n with rfl | hn
  · have hpos : (0 : ℚ) < 2 ^ (1024 : ℤ) - 2 ^ (970 : ℤ) := (two_zpow_pos 1023).trans two_zpow_lt_middle
    rw [Nat.cast_zero, zero_div]
    exact iff_of_false (by simp [ofRatio?]) (not_le.2 hpos)
  obtain ⟨hlower, hupper⟩ := binaryOrder_spec hn hd
  rw [ofRatio?_eq_none_iff_lt hn, exponent_ofUnits]
  -- only in the order of the greatest double the units decide
  rcases lt_trichotomy (binaryOrder n d) 1023 with hless | horder | hgreater
  · have hplace : lastPlace n d ≤ 970 := by
      rw [lastPlace, minExponent]
      omega
    have hbelow : (n / d : ℚ) < 2 ^ (1024 : ℤ) - 2 ^ (970 : ℤ) :=
      hupper.trans_le ((two_zpow_le (by omega)).trans two_zpow_lt_middle.le)
    refine iff_of_false ?_ (not_le.2 hbelow)
    rw [maxExponent]
    split <;> omega
  · have hplace : lastPlace n d = maxExponent := by
      rw [lastPlace, minExponent, maxExponent, horder]
      rfl
    have hfull : units n d = 2 ^ 53 ↔ 2 ^ 53 ≤ units n d := ⟨fun h => h.ge, fun h => (units_le hn hd).antisymm h⟩
    rw [middle_eq, ← hplace, ← le_div_iff₀ (two_zpow_pos _), div_eq_mul_inv (n / d : ℚ), ← zpow_neg,
      ← le_units_iff hd n (by decide), ← hfull]
    split
    · next h => exact iff_of_true (by omega) h
    · next h => exact iff_of_false (by omega) h
  · have hplace : maxExponent < lastPlace n d := by
      rw [lastPlace, minExponent, maxExponent]
      omega
    have hpower : (2 : ℚ) ^ (1024 : ℤ) ≤ n / d := (two_zpow_le (by omega)).trans hlower
    refine iff_of_true ?_ ((sub_le_self _ (two_zpow_pos 970).le).trans hpower)
    split <;> omega

end Nearest

end DomainModel.Binary64

import LocalizedMail.Binary64.Basic
import Mathlib.Data.Int.Log
import Mathlib.Data.Rat.Floor
import Mathlib.Tactic.Linarith
import Mathlib.Tactic.NormNum
import Mathlib.Tactic.Positivity
import Mathlib.Tactic.Ring

/-!
# Rounding to double precision

Numbers of the double-precision format are computed over whole mantissas and exponents, and what
they are worth is a matter of rational numbers.  This file says what rounding does to a rational
number that is not negative, the limits of the format at the upper end apart, and that the
computations of `Binary64` do just that.

Rounding needs two laws only: it never turns an order round (`nearest_mono`), and it leaves the
numbers of the format as they are (`nearest_of_inFormat`).  All bounds of a rounded number follow
from bounds that are numbers of the format.

Main results:
  * `nearest_mono`, `nearest_of_inFormat` and `abs_sub_nearest_le`: what rounding is;
  * `HasValue.ofRatio` and `HasValue.mul`: a quotient and a product are rounded once;
  * `HasValue.min`, `HasValue.lt_iff` and `HasValue.truncate`: order and fractions;
  * `hasValue_ofNat`: whole numbers below `2 ^ 53` are numbers of the format.
-/

namespace LocalizedMail.Rounding

/-! ## §1. Whole numbers -/

/-- The whole number nearest to a rational one, a tie going to the even number. -/
def toEven (q : ℚ) : ℤ :=
  if 2 * Int.fract q < 1 then ⌊q⌋
  else if 1 < 2 * Int.fract q then ⌊q⌋ + 1
  else ⌊q⌋ + ⌊q⌋ % 2

theorem toEven_intCast (k : ℤ) : toEven k = k := by
  simp [toEven]

/-- A number goes to the whole number below it or to the one above it. -/
theorem toEven_mem (q : ℚ) : ⌊q⌋ ≤ toEven q ∧ toEven q ≤ ⌊q⌋ + 1 := by
  unfold toEven
  split_ifs <;> constructor <;> omega

/-- **Rounding to whole numbers keeps the order.** -/
theorem toEven_mono {p q : ℚ} (h : p ≤ q) : toEven p ≤ toEven q := by
  have hp := toEven_mem p
  have hq := toEven_mem q
  rcases (Int.floor_le_floor h).lt_or_eq with hlt | heq
  · omega
  · -- both lie between the same whole numbers, so their fractions decide
    have hfract : Int.fract p ≤ Int.fract q := by
      unfold Int.fract
      rw [heq]
      linarith
    by_cases hlow : 2 * Int.fract p < 1
    · have hdown : toEven p = ⌊p⌋ := if_pos hlow
      omega
    · by_cases hhigh : 1 < 2 * Int.fract q
      · have hup : toEven q = ⌊q⌋ + 1 := by
          unfold toEven
          rw [if_neg (by linarith), if_pos hhigh]
        omega
      · have htie : Int.fract p = Int.fract q := by linarith
        unfold toEven
        rw [heq, htie]

/-- A number is no further from the whole number it goes to than from those on either side. -/
theorem abs_sub_toEven_le_min (q : ℚ) :
    |q - toEven q| ≤ min (Int.fract q) (1 - Int.fract q) := by
  have hfloor := Int.floor_add_fract q
  have hfract := Int.fract_nonneg q
  have hfract' := Int.fract_lt_one q
  suffices h : -Int.fract q ≤ q - toEven q ∧ q - toEven q ≤ Int.fract q ∧
      -(1 - Int.fract q) ≤ q - toEven q ∧ q - toEven q ≤ 1 - Int.fract q from
    le_min (abs_le.mpr ⟨h.1, h.2.1⟩) (abs_le.mpr h.2.2)
  unfold toEven
  split_ifs with hlow hhigh
  · refine ⟨?_, ?_, ?_, ?_⟩ <;> linarith
  · push_cast
    refine ⟨?_, ?_, ?_, ?_⟩ <;> linarith
  · -- a tie: both sides are as near
    rcases Int.emod_two_eq_zero_or_one ⌊q⌋ with h | h
    · rw [h, add_zero]
      refine ⟨?_, ?_, ?_, ?_⟩ <;> linarith
    · rw [h]
      push_cast
      refine ⟨?_, ?_, ?_, ?_⟩ <;> linarith

/-- **No whole number is nearer.** -/
theorem abs_sub_toEven_le (q : ℚ) (k : ℤ) : |q - toEven q| ≤ |q - k| := by
  have hfloor := Int.floor_add_fract q
  have hfract := Int.fract_nonneg q
  have hfract' := Int.fract_lt_one q
  refine (abs_sub_toEven_le_min q).trans ?_
  by_cases hk : k ≤ ⌊q⌋
  · have hk' : (k : ℚ) ≤ ⌊q⌋ := by exact_mod_cast hk
    refine (min_le_left _ _).trans ?_
    rw [abs_of_nonneg] <;> linarith
  · have hk' : (⌊q⌋ : ℚ) + 1 ≤ k := by exact_mod_cast not_le.mp hk
    refine (min_le_right _ _).trans ?_
    rw [abs_of_nonpos] <;> linarith

/-! ## §2. Numbers of the format -/

/-- The exponent that a number is rounded to: the one that leaves a mantissa of 53 digits, or the
least of the format. -/
def grain (q : ℚ) : ℤ := max Binary64.leastExponent (Int.log 2 q - 52)

/-- A number rounded to the format. -/
def nearest (q : ℚ) : ℚ := toEven (q / 2 ^ grain q) * 2 ^ grain q

/-- Whether a rational number that is not negative is one of the format, in which exponents have no
upper end. -/
def InFormat (q : ℚ) : Prop :=
  ∃ (m : ℕ) (e : ℤ), m < 2 ^ 53 ∧ Binary64.leastExponent ≤ e ∧ q = m * 2 ^ e

theorem zpow_two_pos (e : ℤ) : (0 : ℚ) < 2 ^ e := zpow_pos two_pos e

theorem zpow_two_add (d e : ℤ) : (2 : ℚ) ^ (d + e) = 2 ^ d * 2 ^ e := zpow_add₀ two_ne_zero d e

theorem zpow_two_mono {d e : ℤ} (h : d ≤ e) : (2 : ℚ) ^ d ≤ 2 ^ e :=
  zpow_le_zpow_right₀ one_le_two h

/-- A power of two is a whole multiple of every lower one. -/
theorem zpow_two_eq {d e : ℤ} (h : d ≤ e) : (2 : ℚ) ^ e = (2 ^ (e - d).toNat : ℕ) * 2 ^ d := by
  have hexp : e = ((e - d).toNat : ℤ) + d := by omega
  conv_lhs => rw [hexp]
  rw [zpow_two_add, zpow_natCast]
  push_cast
  rfl

theorem grain_mono {p q : ℚ} (hp : 0 < p) (h : p ≤ q) : grain p ≤ grain q := by
  have hlog : Int.log 2 p ≤ Int.log 2 q := Int.log_mono_right hp h
  unfold grain
  omega

theorem leastExponent_le_grain (q : ℚ) : Binary64.leastExponent ≤ grain q := le_max_left _ _

/-- A number has at most 53 digits in front of the place it is rounded to. -/
theorem lt_zpow_grain (q : ℚ) : q < 2 ^ (53 + grain q) := by
  have hlog : q < (2 : ℕ) ^ (Int.log 2 q + 1) := Int.lt_zpow_succ_log_self (by decide) q
  have hle : Int.log 2 q + 1 ≤ 53 + grain q := by
    unfold grain
    omega
  exact hlog.trans_le (by exact_mod_cast zpow_two_mono hle)

/-- A number that is not rounded to the last place of the format has 53 digits. -/
theorem zpow_grain_le {q : ℚ} (hq : 0 < q) (h : Binary64.leastExponent < grain q) :
    2 ^ (52 + grain q) ≤ q := by
  have hlog : ((2 : ℕ) : ℚ) ^ Int.log 2 q ≤ q := Int.zpow_log_le_self (by decide) hq
  have heq : 52 + grain q = Int.log 2 q := by
    unfold grain at h ⊢
    omega
  rw [heq]
  exact_mod_cast hlog

/-- A number with a mantissa of 53 digits is rounded to no later place than its own. -/
theorem grain_le {m : ℕ} {e : ℤ} (hm : m < 2 ^ 53) (he : Binary64.leastExponent ≤ e)
    (hpos : m ≠ 0) : grain (m * 2 ^ e) ≤ e := by
  have hq : (0 : ℚ) < m * 2 ^ e :=
    mul_pos (by exact_mod_cast Nat.pos_of_ne_zero hpos) (zpow_two_pos e)
  have hlt : (m : ℚ) * 2 ^ e < 2 ^ (53 + e) := by
    rw [zpow_two_add]
    exact mul_lt_mul_of_pos_right (by exact_mod_cast hm) (zpow_two_pos e)
  have hlog : Int.log 2 ((m : ℚ) * 2 ^ e) < 53 + e :=
    (Int.lt_zpow_iff_log_lt (by decide) hq).mp (by exact_mod_cast hlt)
  unfold grain
  omega

/-- **The numbers of the format stay as they are.** -/
theorem nearest_of_inFormat {q : ℚ} (h : InFormat q) : nearest q = q := by
  obtain ⟨m, e, hm, he, rfl⟩ := h
  by_cases hzero : m = 0
  · subst hzero
    simp [nearest, toEven]
  · have hgrain := grain_le hm he hzero
    unfold nearest
    generalize grain (m * 2 ^ e) = g at hgrain ⊢
    -- on the grain, which is no coarser than the number, the number is whole
    have hwhole : (m : ℚ) * 2 ^ e / 2 ^ g = ((m * 2 ^ (e - g).toNat : ℕ) : ℤ) := by
      rw [zpow_two_eq hgrain, ← mul_assoc, mul_div_cancel_right₀ _ (zpow_two_pos g).ne']
      push_cast
      rfl
    rw [hwhole, toEven_intCast, ← hwhole]
    exact div_mul_cancel₀ _ (zpow_two_pos g).ne'

/-- A rounded mantissa has at most 53 digits, or is the least number with more. -/
theorem toEven_scaled_le (q : ℚ) : toEven (q / 2 ^ grain q) ≤ 2 ^ 53 := by
  have hlt : q / 2 ^ grain q ≤ ((2 ^ 53 : ℤ) : ℚ) := by
    rw [div_le_iff₀ (zpow_two_pos _)]
    have h := (lt_zpow_grain q).le
    rw [zpow_two_add] at h
    exact_mod_cast h
  have hround := toEven_mono hlt
  rwa [toEven_intCast] at hround

/-- A rounded mantissa has no less than 53 digits, unless its place is the last of the format. -/
theorem le_toEven_scaled {q : ℚ} (hq : 0 < q) (h : Binary64.leastExponent < grain q) :
    2 ^ 52 ≤ toEven (q / 2 ^ grain q) := by
  have hle : ((2 ^ 52 : ℤ) : ℚ) ≤ q / 2 ^ grain q := by
    rw [le_div_iff₀ (zpow_two_pos _)]
    have h := zpow_grain_le hq h
    rw [zpow_two_add] at h
    exact_mod_cast h
  have hround := toEven_mono hle
  rwa [toEven_intCast] at hround

theorem toEven_nonneg {q : ℚ} (hq : 0 ≤ q) : 0 ≤ toEven q := by
  have hround := toEven_mono hq
  rwa [← Int.cast_zero, toEven_intCast] at hround

theorem nearest_nonneg {q : ℚ} (hq : 0 ≤ q) : 0 ≤ nearest q := by
  have hscaled : 0 ≤ q / 2 ^ grain q := div_nonneg hq (zpow_two_pos _).le
  exact mul_nonneg (by exact_mod_cast toEven_nonneg hscaled) (zpow_two_pos _).le

theorem nearest_zero : nearest 0 = 0 := by
  simp [nearest, toEven]

/-- **Rounding keeps the order.** -/
theorem nearest_mono {p q : ℚ} (hp : 0 ≤ p) (h : p ≤ q) : nearest p ≤ nearest q := by
  rcases hp.eq_or_lt with rfl | hpos
  · rw [nearest_zero]
    exact nearest_nonneg h
  · rcases (grain_mono hpos h).eq_or_lt with heq | hlt
    · -- both are rounded to the same place
      unfold nearest
      rw [heq]
      have hscaled : p / 2 ^ grain q ≤ q / 2 ^ grain q :=
        div_le_div_of_nonneg_right h (zpow_two_pos _).le
      exact mul_le_mul_of_nonneg_right (by exact_mod_cast toEven_mono hscaled)
        (zpow_two_pos _).le
    · -- a power of two lies between them
      have hup : nearest p ≤ 2 ^ (53 + grain p) := by
        rw [zpow_two_add]
        exact mul_le_mul_of_nonneg_right (by exact_mod_cast toEven_scaled_le p)
          (zpow_two_pos _).le
      have hdown : (2 : ℚ) ^ (52 + grain q) ≤ nearest q := by
        rw [zpow_two_add]
        have hdigits := le_toEven_scaled (hpos.trans_le h)
          ((leastExponent_le_grain p).trans_lt hlt)
        exact mul_le_mul_of_nonneg_right (by exact_mod_cast hdigits) (zpow_two_pos _).le
      exact hup.trans ((zpow_two_mono (by omega)).trans hdown)

/-- A number of the format above a number is above its rounded form. -/
theorem nearest_le {q s : ℚ} (hq : 0 ≤ q) (hs : InFormat s) (h : q ≤ s) : nearest q ≤ s := by
  have hmono := nearest_mono hq h
  rwa [nearest_of_inFormat hs] at hmono

/-- A number of the format below a number is below its rounded form. -/
theorem le_nearest {q s : ℚ} (hs : InFormat s) (hs' : 0 ≤ s) (h : s ≤ q) : s ≤ nearest q := by
  have hmono := nearest_mono hs' h
  rwa [nearest_of_inFormat hs] at hmono

theorem inFormat_natCast {n : ℕ} (h : n < 2 ^ 53) : InFormat n :=
  ⟨n, 0, h, by decide, by simp⟩

theorem inFormat_two_pow (k : ℕ) : InFormat (2 ^ k) := by
  have hleast : Binary64.leastExponent ≤ 0 := by decide
  exact ⟨1, k, by norm_num, hleast.trans (Int.natCast_nonneg k), by simp⟩

/-- What a number is rounded to is a number of the format. -/
theorem inFormat_nearest {q : ℚ} (hq : 0 ≤ q) : InFormat (nearest q) := by
  have hscaled := toEven_nonneg (div_nonneg hq (zpow_two_pos (grain q)).le)
  have hleast := leastExponent_le_grain q
  unfold nearest
  obtain ⟨m, hm⟩ := Int.eq_ofNat_of_zero_le hscaled
  have hle := toEven_scaled_le q
  rw [hm] at hle ⊢
  rcases hle.lt_or_eq with hlt | heq
  · exact ⟨m, grain q, by exact_mod_cast hlt, hleast, by push_cast; rfl⟩
  · refine ⟨1, 53 + grain q, by norm_num, by omega, ?_⟩
    rw [heq, zpow_two_add]
    norm_num

/-- The distance from a number to its rounded form, on the grain. -/
theorem abs_sub_nearest_le_mul (q : ℚ) (k : ℤ) :
    |q - nearest q| ≤ |q - k * 2 ^ grain q| := by
  have hpos := zpow_two_pos (grain q)
  have hscale : ∀ j : ℤ, |q - j * 2 ^ grain q| = |q / 2 ^ grain q - j| * 2 ^ grain q := by
    intro j
    rw [← abs_of_pos hpos, ← abs_mul, abs_of_pos hpos, sub_mul, div_mul_cancel₀ _ hpos.ne']
  unfold nearest
  rw [hscale, hscale]
  exact mul_le_mul_of_nonneg_right (abs_sub_toEven_le _ k) hpos.le

/-- **No number of the format is nearer.** -/
theorem abs_sub_nearest_le {q s : ℚ} (hq : 0 ≤ q) (hs : InFormat s) :
    |q - nearest q| ≤ |q - s| := by
  obtain ⟨m, e, hm, he, rfl⟩ := hs
  rcases hq.eq_or_lt with rfl | hpos
  · rw [nearest_zero, sub_zero, abs_zero]
    exact abs_nonneg _
  · by_cases hgrain : grain q ≤ e
    · rw [zpow_two_eq hgrain, ← mul_assoc]
      exact_mod_cast abs_sub_nearest_le_mul q (m * 2 ^ (e - grain q).toNat : ℕ)
    · -- a number of a finer place is below the least number of the place of `q`
      have hplace := not_le.mp hgrain
      have hbound : (2 : ℚ) ^ (52 + grain q) ≤ q := zpow_grain_le hpos (he.trans_lt hplace)
      have hbelow : (m : ℚ) * 2 ^ e ≤ 2 ^ (52 + grain q) := by
        calc (m : ℚ) * 2 ^ e
            _ ≤ 2 ^ (53 : ℤ) * 2 ^ e :=
              mul_le_mul_of_nonneg_right (by exact_mod_cast hm.le) (zpow_two_pos e).le
            _ = 2 ^ (53 + e) := (zpow_two_add 53 e).symm
            _ ≤ 2 ^ (52 + grain q) := zpow_two_mono (by omega)
      have hleast := abs_sub_nearest_le_mul q (2 ^ 52)
      have hpower : ((2 ^ 52 : ℤ) : ℚ) * 2 ^ grain q = 2 ^ (52 + grain q) := by
        rw [zpow_two_add]
        norm_num
      rw [hpower] at hleast
      calc |q - nearest q|
          _ ≤ |q - 2 ^ (52 + grain q)| := hleast
          _ = q - 2 ^ (52 + grain q) := abs_of_nonneg (sub_nonneg.mpr hbound)
          _ ≤ q - m * 2 ^ e := sub_le_sub_left hbelow q
          _ ≤ |q - m * 2 ^ e| := le_abs_self _

end LocalizedMail.Rounding

namespace LocalizedMail.Binary64

open Rounding

/-! ## §3. Computations -/

theorem divideToEven_eq (n : ℕ) {d : ℕ} (hd : 0 < d) :
    (divideToEven n d : ℤ) = toEven ((n : ℚ) / d) := by
  have hfloor : ⌊(n : ℚ) / d⌋ = ((n / d : ℕ) : ℤ) := Rat.floor_natCast_div_natCast n d
  have hfract : Int.fract ((n : ℚ) / d) = ((n % d : ℕ) : ℚ) / d :=
    Int.fract_div_natCast_eq_div_natCast_mod
  have hd' : (0 : ℚ) < d := by exact_mod_cast hd
  have hlow : 2 * (((n % d : ℕ) : ℚ) / d) < 1 ↔ 2 * (n % d) < d := by
    rw [← mul_div_assoc, div_lt_one hd']
    exact_mod_cast Iff.rfl
  have hhigh : 1 < 2 * (((n % d : ℕ) : ℚ) / d) ↔ d < 2 * (n % d) := by
    rw [← mul_div_assoc, one_lt_div hd']
    exact_mod_cast Iff.rfl
  unfold divideToEven toEven
  simp only [hfloor, hfract, hlow, hhigh]
  split_ifs <;> push_cast <;> rfl

/-- A power of two as a quotient of whole numbers. -/
theorem zpow_two_eq_div (e : ℤ) :
    (2 : ℚ) ^ e = (Nat.pow 2 e.toNat : ℕ) / (Nat.pow 2 (-e).toNat : ℕ) := by
  have hexp : e = (e.toNat : ℤ) - ((-e).toNat : ℤ) := by omega
  conv_lhs => rw [hexp]
  rw [zpow_sub₀ two_ne_zero, zpow_natCast, zpow_natCast]
  simp

theorem scaleDown_pos (n : ℕ) {d : ℕ} (hd : 0 < d) (e : ℤ) : 0 < (scaleDown n d e).2 :=
  Nat.mul_pos hd (Nat.pow_pos Nat.two_pos)

theorem scaleDown_ratio (n d : ℕ) (e : ℤ) :
    ((scaleDown n d e).1 : ℚ) / (scaleDown n d e).2 = (n : ℚ) / d / 2 ^ e := by
  unfold scaleDown
  rw [zpow_two_eq_div]
  push_cast
  rw [div_div_eq_mul_div, div_mul_eq_mul_div, div_div]

/-- A number between a power of two and the next one has the exponent of the first. -/
theorem log_eq {q : ℚ} {k : ℤ} (hlow : 2 ^ k ≤ q) (hhigh : q < 2 ^ (k + 1)) :
    Int.log 2 q = k := by
  have hq : 0 < q := (zpow_two_pos k).trans_le hlow
  have hle : k ≤ Int.log 2 q :=
    (Int.zpow_le_iff_le_log (by decide) hq).mp (by exact_mod_cast hlow)
  have hlt : Int.log 2 q < k + 1 :=
    (Int.lt_zpow_iff_log_lt (by decide) hq).mp (by exact_mod_cast hhigh)
  omega

/-- The binary digits of a whole number say between which powers of two it lies. -/
theorem log2_bounds {n : ℕ} (hn : 0 < n) :
    (2 : ℚ) ^ (Nat.log2 n : ℤ) ≤ n ∧ (n : ℚ) < 2 ^ ((Nat.log2 n : ℤ) + 1) := by
  constructor
  · exact_mod_cast Nat.log2_self_le hn.ne'
  · exact_mod_cast Nat.lt_log2_self (n := n)

theorem floorLog2_eq {n d : ℕ} (hn : 0 < n) (hd : 0 < d) :
    floorLog2 n d = Int.log 2 ((n : ℚ) / d) := by
  obtain ⟨hn1, hn2⟩ := log2_bounds hn
  obtain ⟨hd1, hd2⟩ := log2_bounds hd
  have hd' : (0 : ℚ) < d := by exact_mod_cast hd
  unfold floorLog2
  dsimp only
  generalize hguess : (Nat.log2 n : ℤ) - Nat.log2 d = guess
  -- the digits leave two exponents open, and the quotient itself decides between them
  have hbelow : (n : ℚ) / d < 2 ^ (guess + 1) := by
    rw [div_lt_iff₀ hd']
    calc (n : ℚ)
        _ < 2 ^ ((Nat.log2 n : ℤ) + 1) := hn2
        _ = 2 ^ (guess + 1) * 2 ^ (Nat.log2 d : ℤ) := by
          rw [← zpow_two_add]
          congr 1
          omega
        _ ≤ 2 ^ (guess + 1) * d := mul_le_mul_of_nonneg_left hd1 (zpow_two_pos _).le
  have habove : (2 : ℚ) ^ (guess - 1) ≤ n / d := by
    rw [le_div_iff₀ hd']
    calc (2 : ℚ) ^ (guess - 1) * d
        _ ≤ 2 ^ (guess - 1) * 2 ^ ((Nat.log2 d : ℤ) + 1) :=
          mul_le_mul_of_nonneg_left hd2.le (zpow_two_pos _).le
        _ = 2 ^ (Nat.log2 n : ℤ) := by
          rw [← zpow_two_add]
          congr 1
          omega
        _ ≤ n := hn1
  have hdecides : (scaleDown n d guess).2 ≤ (scaleDown n d guess).1 ↔ (2 : ℚ) ^ guess ≤ n / d := by
    have hpos : (0 : ℚ) < (scaleDown n d guess).2 := by exact_mod_cast scaleDown_pos n hd guess
    rw [← one_le_div (zpow_two_pos guess), ← scaleDown_ratio, one_le_div hpos]
    exact_mod_cast Iff.rfl
  by_cases h : (scaleDown n d guess).2 ≤ (scaleDown n d guess).1
  · rw [if_pos h]
    exact (log_eq (hdecides.mp h) hbelow).symm
  · rw [if_neg h]
    have hlt := not_le.mp (hdecides.not.mp h)
    exact (log_eq habove (by rwa [sub_add_cancel])).symm

/-! ## §4. What a number is worth -/

/-- A number without a minus sign that is worth a rational one. -/
def HasValue (x : Binary64) (q : ℚ) : Prop :=
  ∃ (m : ℕ) (e : ℤ), x = .finite false m e ∧ leastExponent ≤ e ∧ q = m * 2 ^ e

theorem HasValue.ne_nan {x : Binary64} {q : ℚ} (h : HasValue x q) : x ≠ .nan := by
  obtain ⟨m, e, rfl, -, -⟩ := h
  exact fun hnan => by cases hnan

/-- A mantissa that is rounded to its place makes a number that is worth as much, unless it is too
great for the format. -/
theorem HasValue.pack {m : ℕ} {e : ℤ} (he : leastExponent ≤ e)
    (hdigits : leastExponent < e → 2 ^ 52 ≤ m) (hsmall : (m : ℚ) * 2 ^ e < 2 ^ 1024) :
    HasValue (Binary64.pack false m e) (m * 2 ^ e) := by
  have hlimit : ∀ k : ℕ, 2 ^ k ≤ m → (k : ℤ) + e < 1024 := by
    intro k hk
    by_contra hlarge
    have hpower : (2 : ℚ) ^ (1024 : ℤ) ≤ m * 2 ^ e := by
      calc (2 : ℚ) ^ (1024 : ℤ)
          _ ≤ 2 ^ ((k : ℤ) + e) := zpow_two_mono (by omega)
          _ = (2 : ℚ) ^ (k : ℤ) * 2 ^ e := zpow_two_add _ _
          _ ≤ m * 2 ^ e :=
            mul_le_mul_of_nonneg_right (by exact_mod_cast hk) (zpow_two_pos e).le
    exact absurd hsmall (not_lt.mpr (by exact_mod_cast hpower))
  unfold Binary64.pack
  by_cases hcarry : m = Nat.pow 2 53
  · have hexp := hlimit 53 hcarry.ge
    have hgreatest : ¬ greatestExponent < e + 1 := by
      unfold greatestExponent
      omega
    rw [if_pos hcarry]
    dsimp only
    rw [if_neg hgreatest]
    refine ⟨_, _, rfl, by omega, ?_⟩
    rw [hcarry, add_comm e 1, zpow_two_add]
    norm_num
    ring
  · have hgreatest : ¬ greatestExponent < e := by
      intro hlt
      unfold greatestExponent at hlt
      unfold leastExponent at hdigits
      have hexp := hlimit 52 (hdigits (by omega))
      omega
    rw [if_neg hcarry]
    dsimp only
    rw [if_neg hgreatest]
    exact ⟨m, e, rfl, he, rfl⟩

/-- A quotient is its mantissa, rounded to the place that it is rounded to. -/
theorem ofRatio_eq_pack {n d : ℕ} (hn : 0 < n) (hd : 0 < d) :
    ∃ m : ℕ, (m : ℤ) = toEven ((n : ℚ) / d / 2 ^ grain ((n : ℚ) / d)) ∧
      Binary64.ofRatio false n d = Binary64.pack false m (grain ((n : ℚ) / d)) := by
  have hgrain : Max.max leastExponent (floorLog2 n d - 52) = grain ((n : ℚ) / d) := by
    rw [floorLog2_eq hn hd]
    rfl
  refine ⟨divideToEven (scaleDown n d (grain ((n : ℚ) / d))).1
    (scaleDown n d (grain ((n : ℚ) / d))).2, ?_, ?_⟩
  · rw [divideToEven_eq _ (scaleDown_pos n hd _), scaleDown_ratio]
  · unfold Binary64.ofRatio
    rw [if_neg hn.ne']
    dsimp only
    rw [hgrain]

/-- **A quotient is rounded once.** -/
theorem HasValue.ofRatio (n : ℕ) {d : ℕ} (hd : 0 < d)
    (hsmall : nearest ((n : ℚ) / d) < 2 ^ 1024) :
    HasValue (Binary64.ofRatio false n d) (nearest ((n : ℚ) / d)) := by
  rcases Nat.eq_zero_or_pos n with rfl | hn
  · unfold Binary64.ofRatio
    rw [if_pos rfl]
    exact ⟨0, leastExponent, rfl, le_refl _, by simp [nearest_zero]⟩
  · have hq : (0 : ℚ) < (n : ℚ) / d := div_pos (by exact_mod_cast hn) (by exact_mod_cast hd)
    obtain ⟨m, hm, hpack⟩ := ofRatio_eq_pack hn hd
    have hdigits := fun h => le_toEven_scaled hq h
    unfold nearest at hsmall ⊢
    rw [← hm] at hsmall hdigits ⊢
    rw [hpack]
    exact HasValue.pack (leastExponent_le_grain _) (fun h => by exact_mod_cast hdigits h)
      (by exact_mod_cast hsmall)

/-- A product is the quotient that it is worth, rounded. -/
theorem HasValue.mul_eq_ofRatio {x y : Binary64} {p q : ℚ} (hx : HasValue x p)
    (hy : HasValue y q) :
    ∃ n d : ℕ, 0 < d ∧ (n : ℚ) / d = p * q ∧ x.mul y = Binary64.ofRatio false n d := by
  obtain ⟨m, e, rfl, -, rfl⟩ := hx
  obtain ⟨n, f, rfl, -, rfl⟩ := hy
  refine ⟨m * n * Nat.pow 2 (e + f).toNat, Nat.pow 2 (-(e + f)).toNat,
    Nat.pow_pos Nat.two_pos, ?_, rfl⟩
  have hpower := zpow_two_eq_div (e + f)
  rw [zpow_two_add] at hpower
  push_cast at hpower ⊢
  rw [mul_div_assoc, ← hpower]
  ring

/-- **A product is rounded once.** -/
theorem HasValue.mul {x y : Binary64} {p q : ℚ} (hx : HasValue x p) (hy : HasValue y q)
    (hsmall : nearest (p * q) < 2 ^ 1024) : HasValue (x.mul y) (nearest (p * q)) := by
  obtain ⟨n, d, hd, hratio, hmul⟩ := hx.mul_eq_ofRatio hy
  rw [← hratio] at hsmall ⊢
  rw [hmul]
  exact HasValue.ofRatio n hd hsmall

/-- A number on the grid of the least exponent. -/
theorem onGrid_eq (m : ℕ) {e : ℤ} (he : leastExponent ≤ e) :
    (onGrid false m e : ℚ) = m * 2 ^ e * 2 ^ (-leastExponent) := by
  have hexp : ((e - leastExponent).toNat : ℤ) = e + -leastExponent := by omega
  unfold onGrid
  rw [mul_assoc, ← zpow_two_add, ← hexp, zpow_natCast]
  simp

/-- Numbers are in the order of what they are worth. -/
theorem HasValue.lt_iff {x y : Binary64} {p q : ℚ} (hx : HasValue x p) (hy : HasValue y q) :
    x.lt y = true ↔ p < q := by
  obtain ⟨m, e, rfl, he, rfl⟩ := hx
  obtain ⟨n, f, rfl, hf, rfl⟩ := hy
  have hgrid : onGrid false m e < onGrid false n f ↔ (m : ℚ) * 2 ^ e < n * 2 ^ f := by
    rw [← Int.cast_lt (R := ℚ), onGrid_eq m he, onGrid_eq n hf]
    exact mul_lt_mul_iff_left₀ (zpow_two_pos _)
  simpa [Binary64.lt] using hgrid

theorem HasValue.min {x y : Binary64} {p q : ℚ} (hx : HasValue x p) (hy : HasValue y q) :
    HasValue (x.min y) (Min.min p q) := by
  unfold Binary64.min
  rw [if_neg hx.ne_nan, if_neg hy.ne_nan]
  by_cases h : q < p
  · rw [if_pos ((hy.lt_iff hx).mpr h), min_eq_right h.le]
    exact hy
  · rw [if_neg ((hy.lt_iff hx).not.mpr h), min_eq_left (not_lt.mp h)]
    exact hx

theorem HasValue.max {x y : Binary64} {p q : ℚ} (hx : HasValue x p) (hy : HasValue y q) :
    HasValue (x.max y) (Max.max p q) := by
  unfold Binary64.max
  rw [if_neg hx.ne_nan, if_neg hy.ne_nan]
  by_cases h : p < q
  · rw [if_pos ((hx.lt_iff hy).mpr h), max_eq_right h.le]
    exact hy
  · rw [if_neg ((hx.lt_iff hy).not.mpr h), max_eq_left (not_lt.mp h)]
    exact hx

/-- The fraction of a number is cut off. -/
theorem HasValue.truncate {x : Binary64} {q : ℚ} (hx : HasValue x q) (low high : ℤ) :
    x.truncate low high = clamp low high ⌊q⌋ := by
  obtain ⟨m, e, rfl, -, rfl⟩ := hx
  have hwhole : ((wholePart m e : ℕ) : ℤ) = ⌊(m : ℚ) * 2 ^ e⌋ := by
    unfold wholePart
    rw [zpow_two_eq_div, ← mul_div_assoc, ← Nat.cast_mul, Rat.floor_natCast_div_natCast]
    rfl
  simp only [Binary64.truncate, Bool.false_eq_true, if_false, hwhole]

/-- **A whole number below `2 ^ 53` is not rounded.** -/
theorem hasValue_ofNat {n : ℕ} (h : n < 2 ^ 53) : HasValue (.ofNat n) n := by
  have hnearest : nearest ((n : ℚ) / (1 : ℕ)) = n := by
    rw [Nat.cast_one, div_one, nearest_of_inFormat (inFormat_natCast h)]
  have hsmall : (n : ℚ) < 2 ^ 1024 := by
    calc (n : ℚ)
        _ < 2 ^ 53 := by exact_mod_cast h
        _ ≤ 2 ^ 1024 := pow_le_pow_right₀ one_le_two (by decide)
  have hvalue := HasValue.ofRatio n Nat.one_pos (by rw [hnearest]; exact hsmall)
  rwa [hnearest] at hvalue

end LocalizedMail.Binary64

import LocalizedMail.Proofs.Growth

/-!
# Delays and their limit

A delay and its limit are whole numbers of milliseconds, but a delay grows in double precision, and
so the limit that cuts it is the one that double precision makes of the given limit.  Below `2 ^ 53`
nobody notices.  From there on the format has no room for every whole number, and a limit may be
rounded up.  A first delay is not rounded, but the second one comes from its rounded form.

This file says, for any first delay, any limit and any factor, infinite ones and those that are no
number included, what can go wrong because of that, and that nothing else can.

What double precision makes of a number of milliseconds is called `rounded`.  It keeps the order,
and does nothing the second time.  A step of growth lies between the rounded delay and the rounded
limit, and everything about runs follows from these three facts.

Main results:
  * `HasValue.mul_of_large`: a product that is too large for the format is infinite;
  * `rounded_mono`, `rounded_wholeMs` and `rounded_near`: what rounding does to milliseconds;
  * `Rule.min_le_grow`, `Rule.grow_le` and `Rule.rounded_grow`: one step;
  * `Rule.delay_succ_le` and `Rule.delay_succ_mono`: all steps;
  * `delay_within_rounding`: every run.
-/

namespace LocalizedMail.Rounding

/-! ## §1. Large numbers -/

/-- A number of the format that is not below `2 ^ 53` is whole. -/
theorem InFormat.whole {q : ℚ} (h : InFormat q) (hlarge : 2 ^ 53 ≤ q) : ∃ n : ℕ, q = n := by
  obtain ⟨m, e, hm, -, rfl⟩ := h
  by_cases he : 0 ≤ e
  · refine ⟨m * 2 ^ e.toNat, ?_⟩
    have hexp : (2 : ℚ) ^ e = 2 ^ e.toNat := by
      rw [← zpow_natCast, Int.toNat_of_nonneg he]
    rw [hexp]
    push_cast
    rfl
  · -- a negative exponent leaves less than the mantissa
    have hone : (2 : ℚ) ^ e ≤ 1 := zpow_le_one_of_nonpos₀ one_le_two (by omega)
    have hbelow : (m : ℚ) * 2 ^ e < 2 ^ 53 := by
      calc (m : ℚ) * 2 ^ e
          _ ≤ m * 1 := mul_le_mul_of_nonneg_left hone (Nat.cast_nonneg m)
          _ = m := mul_one _
          _ < 2 ^ 53 := by exact_mod_cast hm
    exact absurd hlarge (not_le.mpr hbelow)

end LocalizedMail.Rounding

namespace LocalizedMail.Binary64

open Rounding

/-- A mantissa that is rounded to a place beyond the format makes an infinite number. -/
theorem pack_of_large {m : ℕ} {e : ℤ} (hm : m ≤ 2 ^ 53) (hlarge : (2 : ℚ) ^ 1024 ≤ m * 2 ^ e) :
    Binary64.pack false m e = .infinite false := by
  have hlarge' : (2 : ℚ) ^ (1024 : ℤ) ≤ m * 2 ^ e := by exact_mod_cast hlarge
  unfold Binary64.pack
  by_cases hcarry : m = Nat.pow 2 53
  · -- a full mantissa is carried into the exponent, and then the exponent alone is too large
    have hpower : (2 : ℚ) ^ (1024 : ℤ) ≤ 2 ^ (53 + e) := by
      rw [zpow_two_add]
      rw [hcarry] at hlarge'
      exact_mod_cast hlarge'
    have hexp : 1024 ≤ 53 + e := (zpow_le_zpow_iff_right₀ one_lt_two).mp hpower
    rw [if_pos hcarry]
    dsimp only
    rw [if_pos (by unfold greatestExponent; omega)]
  · have hlt : m < 2 ^ 53 := lt_of_le_of_ne hm hcarry
    have hpower : (2 : ℚ) ^ (1024 : ℤ) < 2 ^ (53 + e) := by
      calc (2 : ℚ) ^ (1024 : ℤ)
          _ ≤ m * 2 ^ e := hlarge'
          _ < 2 ^ (53 : ℤ) * 2 ^ e :=
            mul_lt_mul_of_pos_right (by exact_mod_cast hlt) (zpow_two_pos e)
          _ = 2 ^ (53 + e) := (zpow_two_add 53 e).symm
    have hexp : 1024 < 53 + e := (zpow_lt_zpow_iff_right₀ one_lt_two).mp hpower
    rw [if_neg hcarry]
    dsimp only
    rw [if_pos (by unfold greatestExponent; omega)]

theorem ofRatio_of_large {n d : ℕ} (hd : 0 < d) (hlarge : 2 ^ 1024 ≤ nearest ((n : ℚ) / d)) :
    Binary64.ofRatio false n d = .infinite false := by
  rcases Nat.eq_zero_or_pos n with rfl | hn
  · rw [Nat.cast_zero, zero_div, nearest_zero] at hlarge
    exact absurd hlarge (by norm_num)
  · -- the ratio is rounded to a whole number of places first, and packed afterwards
    obtain ⟨m, hm, hpack⟩ := ofRatio_eq_pack hn hd
    have hdigits := toEven_scaled_le ((n : ℚ) / d)
    unfold nearest at hlarge
    rw [← hm] at hlarge hdigits
    rw [hpack]
    exact pack_of_large (by exact_mod_cast hdigits) (by exact_mod_cast hlarge)

/-- **A product that is too large for the format is infinite.** -/
theorem HasValue.mul_of_large {x y : Binary64} {p q : ℚ} (hx : HasValue x p) (hy : HasValue y q)
    (hlarge : 2 ^ 1024 ≤ nearest (p * q)) : x.mul y = .infinite false := by
  obtain ⟨n, d, hd, hratio, hmul⟩ := hx.mul_eq_ofRatio hy
  rw [← hratio] at hlarge
  rw [hmul]
  exact ofRatio_of_large hd hlarge

/-- A finite number times an infinite one is no number, or infinite. -/
theorem HasValue.mul_infinite {x : Binary64} {p : ℚ} (hx : HasValue x p) :
    x.mul (.infinite false) = .nan ∨ x.mul (.infinite false) = .infinite false := by
  obtain ⟨m, e, rfl, -, -⟩ := hx
  unfold Binary64.mul
  by_cases hzero : (Binary64.finite false m e).isZero = true
  · exact Or.inl (if_pos hzero)
  · exact Or.inr (if_neg hzero)

/-- The data of a number of the format: a mantissa and an exponent that there is room for. -/
def IsDouble : Binary64 → Prop
  | .finite _ m e => m < 2 ^ 53 ∧ leastExponent ≤ e ∧ e ≤ greatestExponent
  | _ => True

end LocalizedMail.Binary64

namespace LocalizedMail.Mail.Backoff

open Binary64 Rounding

/-! ## §2. Any factor -/

/-- A factor below zero is below one. -/
theorem negative_lt_one (m : ℕ) (e : ℤ) :
    (Binary64.finite true m e).lt (.ofNat 1) = true := by
  have hone : Binary64.ofNat 1 = .finite false (2 ^ 52) (-52) := by decide +kernel
  have hpositive : 0 < onGrid false (2 ^ 52) (-52) := by decide +kernel
  have hnegative : onGrid true m e ≤ 0 := by
    show -(Int.ofNat _) ≤ 0
    simp
  rw [hone]
  show decide (onGrid true m e < onGrid false (2 ^ 52) (-52)) = true
  simp only [decide_eq_true_eq]
  omega

/-- **The factor that is used is worth one or more, or it is infinite.** -/
theorem factor_cases {x : Binary64} (hx : x.IsDouble) :
    x.max (.ofNat 1) = .infinite false ∨ ∃ q : ℚ, HasValue (x.max (.ofNat 1)) q ∧ 1 ≤ q := by
  have hcounts : CountsAs x 1 → ∃ q : ℚ, HasValue (x.max (.ofNat 1)) q ∧ 1 ≤ q := by
    intro h
    exact ⟨1, by simpa using h.hasValue, le_refl 1⟩
  cases x with
  | nan => exact Or.inr (hcounts .notANumber)
  | infinite negative =>
    cases negative with
    | true => exact Or.inr (hcounts (.small rfl))
    | false => exact Or.inl rfl
  | finite negative m e =>
    right
    cases negative with
    | true => exact hcounts (.small (negative_lt_one m e))
    | false =>
      have hvalue : HasValue (.finite false m e) (m * 2 ^ e) := ⟨m, e, rfl, hx.2.1, rfl⟩
      have hone : HasValue (.ofNat 1) (1 : ℕ) := hasValue_ofNat (by norm_num)
      refine ⟨_, hvalue.max hone, ?_⟩
      rw [Nat.cast_one]
      exact le_max_right _ _

/-! ## §3. Milliseconds in double precision -/

/-- A number of milliseconds as double precision gives it back. -/
def rounded (n : ℕ) : ℕ := ((Binary64.ofNat n).truncate 0 greatestDelay).toNat

/-- The whole milliseconds of a number, as many as a delay can have. -/
def wholeMs (q : ℚ) : ℕ := (clamp 0 greatestDelay ⌊q⌋).toNat

theorem greatestDelay_eq : greatestDelay = 2 ^ 64 - 1 := rfl

theorem wholeMs_mono {p q : ℚ} (h : p ≤ q) : wholeMs p ≤ wholeMs q := by
  have hfloor := Int.floor_le_floor h
  unfold wholeMs clamp
  split_ifs <;> omega

theorem wholeMs_natCast (n : ℕ) : wholeMs n = min n greatestDelay := by
  unfold wholeMs clamp
  rw [Int.floor_natCast]
  split_ifs <;> omega

/-- A number of milliseconds is worth a nearest number of the format. -/
theorem hasValue_ofNat_of_le {n : ℕ} (hn : n ≤ greatestDelay) :
    HasValue (.ofNat n) (nearest n) := by
  have hbound : (n : ℚ) ≤ 2 ^ 64 := by
    have hle : n ≤ 2 ^ 64 := by
      rw [greatestDelay_eq] at hn
      omega
    exact_mod_cast hle
  have hsmall : nearest (n : ℚ) < 2 ^ 1024 := by
    calc nearest (n : ℚ)
        _ ≤ 2 ^ 64 := nearest_le (Nat.cast_nonneg n) (inFormat_two_pow 64) hbound
        _ < 2 ^ 1024 := pow_lt_pow_right₀ one_lt_two (by decide)
  have hvalue := HasValue.ofRatio n Nat.one_pos
  rw [Nat.cast_one, div_one] at hvalue
  exact hvalue hsmall

theorem rounded_eq {n : ℕ} (hn : n ≤ greatestDelay) : rounded n = wholeMs (nearest n) := by
  unfold rounded
  rw [(hasValue_ofNat_of_le hn).truncate]
  rfl

theorem rounded_le (n : ℕ) (hn : n ≤ greatestDelay) : rounded n ≤ greatestDelay := by
  rw [rounded_eq hn]
  unfold wholeMs clamp
  split_ifs <;> omega

theorem rounded_mono {m n : ℕ} (h : m ≤ n) (hn : n ≤ greatestDelay) : rounded m ≤ rounded n := by
  rw [rounded_eq hn, rounded_eq (h.trans hn)]
  exact wholeMs_mono (nearest_mono (Nat.cast_nonneg m) (by exact_mod_cast h))

/-- Below `2 ^ 53` there is a number of the format for every number of milliseconds. -/
theorem rounded_of_lt {n : ℕ} (hn : n < 2 ^ 53) : rounded n = n := by
  have hdelay : n ≤ greatestDelay := by
    rw [greatestDelay_eq]
    omega
  rw [rounded_eq hdelay, nearest_of_inFormat (inFormat_natCast hn), wholeMs_natCast]
  omega

/-- **What has been in double precision comes back from it unchanged.** -/
theorem rounded_wholeMs {q : ℚ} (hq : InFormat q) (hnonneg : 0 ≤ q) :
    rounded (wholeMs q) = wholeMs q := by
  by_cases hsmall : q < 2 ^ 53
  · -- below `2 ^ 53` a fraction may have been cut off, but what is left is small
    have hfloor : ⌊q⌋ < 2 ^ 53 := by
      rw [Int.floor_lt]
      exact_mod_cast hsmall
    have hfloor' : 0 ≤ ⌊q⌋ := Int.floor_nonneg.mpr hnonneg
    refine rounded_of_lt ?_
    unfold wholeMs clamp
    rw [greatestDelay_eq]
    split_ifs <;> omega
  · obtain ⟨n, rfl⟩ := hq.whole (not_lt.mp hsmall)
    rw [wholeMs_natCast]
    rcases le_total n greatestDelay with hn | hn
    · rw [min_eq_left hn, rounded_eq hn, nearest_of_inFormat hq, wholeMs_natCast, min_eq_left hn]
    · -- the greatest delay is rounded up, and then cut down again
      rw [min_eq_right hn]
      decide +kernel

/-- A number of milliseconds is at most half a place away from a multiple of the coarsest place
that there is below `2 ^ 64`. -/
theorem exists_inFormat_near {n : ℕ} (hn : n ≤ greatestDelay) :
    ∃ s : ℕ, InFormat s ∧ n ≤ s + 1024 ∧ s ≤ n + 1024 := by
  rw [greatestDelay_eq] at hn
  have hplaces : ∀ k < 2 ^ 53, InFormat ((k * 2048 : ℕ) : ℚ) := by
    intro k hk
    exact ⟨k, 11, hk, by decide, by push_cast; norm_num⟩
  by_cases hlow : n % 2048 ≤ 1024
  · exact ⟨n / 2048 * 2048, hplaces _ (by omega), by omega, by omega⟩
  · refine ⟨(n / 2048 + 1) * 2048, ?_, by omega, by omega⟩
    by_cases hlast : n / 2048 + 1 < 2 ^ 53
    · exact hplaces _ hlast
    · -- the multiple is `2 ^ 64`
      have hpower : (n / 2048 + 1) * 2048 = 2 ^ 64 := by omega
      rw [hpower]
      exact_mod_cast inFormat_two_pow 64

/-- **Rounding is off by no more than 1024 milliseconds.** -/
theorem rounded_near {n : ℕ} (hn : n ≤ greatestDelay) :
    n ≤ rounded n + 1024 ∧ rounded n ≤ n + 1024 := by
  by_cases hsmall : n < 2 ^ 53
  · rw [rounded_of_lt hsmall]
    omega
  · -- the nearest number of the format is whole here, and no other number of the format is nearer
    have hlarge : (2 : ℚ) ^ 53 ≤ n := by exact_mod_cast not_lt.mp hsmall
    have hnearest : (2 : ℚ) ^ 53 ≤ nearest n :=
      le_nearest (inFormat_two_pow 53) (by positivity) hlarge
    obtain ⟨k, hk⟩ := (inFormat_nearest (Nat.cast_nonneg n)).whole hnearest
    obtain ⟨s, hs, habove, hbelow⟩ := exists_inFormat_near hn
    have hdistance : |(n : ℚ) - k| ≤ |(n : ℚ) - s| := by
      rw [← hk]
      exact abs_sub_nearest_le (Nat.cast_nonneg n) hs
    have hplace : |(n : ℚ) - s| ≤ 1024 := by
      rw [abs_le]
      constructor
      · have h : (s : ℚ) ≤ n + 1024 := by exact_mod_cast hbelow
        linarith
      · have h : (n : ℚ) ≤ s + 1024 := by exact_mod_cast habove
        linarith
    obtain ⟨hlow, hhigh⟩ := abs_le.mp (hdistance.trans hplace)
    have hlow' : k ≤ n + 1024 := by
      have h : (k : ℚ) ≤ n + 1024 := by linarith
      exact_mod_cast h
    have hhigh' : n ≤ k + 1024 := by
      have h : (n : ℚ) ≤ k + 1024 := by linarith
      exact_mod_cast h
    rw [rounded_eq hn, hk, wholeMs_natCast]
    omega

/-! ## §4. One step -/

/-- **A delay times its factor**: it is no number, where the delay is nothing and the factor
infinite; or it is infinite; or it is a number of the format and no less than the delay. -/
theorem product_cases {current : ℕ} (hcurrent : current ≤ greatestDelay) {x : Binary64}
    (hx : x.IsDouble) :
    let product := (Binary64.ofNat current).mul (x.max (.ofNat 1))
    product = .nan ∨ product = .infinite false ∨
      ∃ q : ℚ, HasValue product q ∧ InFormat q ∧ nearest current ≤ q := by
  intro product
  have hdelay := hasValue_ofNat_of_le hcurrent
  have hnonneg : 0 ≤ nearest (current : ℚ) := nearest_nonneg (Nat.cast_nonneg current)
  rcases factor_cases hx with hinfinite | ⟨p, hp, hone⟩
  · have hproduct : product = (Binary64.ofNat current).mul (.infinite false) := by
      show (Binary64.ofNat current).mul (x.max (.ofNat 1)) = _
      rw [hinfinite]
    rw [hproduct]
    rcases hdelay.mul_infinite with h | h
    · exact Or.inl h
    · exact Or.inr (Or.inl h)
  · have hgrows : nearest (current : ℚ) ≤ nearest current * p :=
      le_mul_of_one_le_right hnonneg hone
    by_cases hsmall : nearest (nearest (current : ℚ) * p) < 2 ^ 1024
    · refine Or.inr (Or.inr ⟨_, hdelay.mul hp hsmall, ?_, ?_⟩)
      · exact inFormat_nearest (hnonneg.trans hgrows)
      · exact le_nearest (inFormat_nearest (Nat.cast_nonneg current)) hnonneg hgrows
    · exact Or.inr (Or.inl (hdelay.mul_of_large hp (not_lt.mp hsmall)))

section step

variable {r : Rule} (hmax : r.maxMs ≤ greatestDelay) (hfactor : r.multiplier.IsDouble)
include hmax hfactor

/-- **The next delay is made of a number of the format** that lies between the rounded delay and
the rounded limit. -/
theorem Rule.exists_grown {current : ℕ} (hcurrent : current ≤ greatestDelay) :
    ∃ q : ℚ, InFormat q ∧ min (nearest current) (nearest r.maxMs) ≤ q ∧
      q ≤ nearest r.maxMs ∧ r.grow current = wholeMs q := by
  have hlimit := hasValue_ofNat_of_le hmax
  have hformat : InFormat (nearest (r.maxMs : ℚ)) := inFormat_nearest (Nat.cast_nonneg _)
  -- what is cut to the limit is worth a rational number, whether or not the product is
  have hgrow : ∀ q : ℚ,
      HasValue (((Binary64.ofNat current).mul (r.multiplier.max (.ofNat 1))).min
        (.ofNat r.maxMs)) q → r.grow current = wholeMs q := by
    intro q hq
    unfold Rule.grow
    dsimp only
    rw [hq.truncate]
    rfl
  obtain ⟨m, e, hfinite, -, -⟩ := hlimit
  rcases product_cases hcurrent hfactor with hnan | hinfinite | ⟨q, hq, hinFormat, hlow⟩
  · -- what is no number counts as absent, and the limit is left
    refine ⟨_, hformat, min_le_right _ _, le_refl _, hgrow _ ?_⟩
    rw [hnan]
    exact hasValue_ofNat_of_le hmax
  · refine ⟨_, hformat, min_le_right _ _, le_refl _, hgrow _ ?_⟩
    rw [hinfinite, hfinite]
    show HasValue (.finite false m e) _
    rw [← hfinite]
    exact hasValue_ofNat_of_le hmax
  · refine ⟨_, ?_, ?_, min_le_right _ _, hgrow _ (hq.min (hasValue_ofNat_of_le hmax))⟩
    · rcases min_choice q (nearest (r.maxMs : ℚ)) with h | h
      · rw [h]
        exact hinFormat
      · rw [h]
        exact hformat
    · exact min_le_min_right _ hlow

/-- **A step goes no further than the rounded limit.** -/
theorem Rule.grow_le {current : ℕ} (hcurrent : current ≤ greatestDelay) :
    r.grow current ≤ rounded r.maxMs := by
  obtain ⟨q, -, -, hhigh, hgrow⟩ := r.exists_grown hmax hfactor hcurrent
  rw [hgrow, rounded_eq hmax]
  exact wholeMs_mono hhigh

/-- **A step goes no further back than rounding does.** -/
theorem Rule.min_le_grow {current : ℕ} (hcurrent : current ≤ greatestDelay) :
    min (rounded current) (rounded r.maxMs) ≤ r.grow current := by
  obtain ⟨q, -, hlow, -, hgrow⟩ := r.exists_grown hmax hfactor hcurrent
  rw [hgrow, rounded_eq hmax, rounded_eq hcurrent]
  rcases min_le_iff.mp hlow with h | h
  · exact (min_le_left _ _).trans (wholeMs_mono h)
  · exact (min_le_right _ _).trans (wholeMs_mono h)

/-- **A step leads to a delay that is not rounded again.** -/
theorem Rule.rounded_grow {current : ℕ} (hcurrent : current ≤ greatestDelay) :
    rounded (r.grow current) = r.grow current := by
  obtain ⟨q, hformat, hlow, -, hgrow⟩ := r.exists_grown hmax hfactor hcurrent
  have hnonneg : 0 ≤ min (nearest (current : ℚ)) (nearest r.maxMs) :=
    le_min (nearest_nonneg (Nat.cast_nonneg _)) (nearest_nonneg (Nat.cast_nonneg _))
  rw [hgrow]
  exact rounded_wholeMs hformat (hnonneg.trans hlow)

/-! ## §5. All steps -/

theorem Rule.delay_le_greatest (n : ℕ) : r.delay n ≤ greatestDelay := by
  induction n with
  | zero => exact (min_le_right _ _).trans hmax
  | succ n ih =>
    show r.grow (r.delay n) ≤ greatestDelay
    exact (r.grow_le hmax hfactor ih).trans (rounded_le _ hmax)

/-- No delay after the first is above the rounded limit. -/
theorem Rule.delay_succ_le (n : ℕ) : r.delay (n + 1) ≤ rounded r.maxMs :=
  r.grow_le hmax hfactor (r.delay_le_greatest hmax hfactor n)

theorem Rule.rounded_delay_succ (n : ℕ) : rounded (r.delay (n + 1)) = r.delay (n + 1) :=
  r.rounded_grow hmax hfactor (r.delay_le_greatest hmax hfactor n)

/-- A delay is no less than what the one before it is rounded to. -/
theorem Rule.rounded_delay_le (n : ℕ) : rounded (r.delay n) ≤ r.delay (n + 1) := by
  have hbelow : rounded (r.delay n) ≤ rounded r.maxMs := by
    cases n with
    | zero => exact rounded_mono (min_le_right _ _) hmax
    | succ n =>
      rw [r.rounded_delay_succ hmax hfactor]
      exact r.delay_succ_le hmax hfactor n
  have hstep := r.min_le_grow hmax hfactor (r.delay_le_greatest hmax hfactor n)
  rw [min_eq_left hbelow] at hstep
  exact hstep

/-- **From the second delay on none is shorter than the one before it.** -/
theorem Rule.delay_succ_mono (n : ℕ) : r.delay (n + 1) ≤ r.delay (n + 2) := by
  have hstep := r.rounded_delay_le hmax hfactor (n + 1)
  rwa [r.rounded_delay_succ hmax hfactor] at hstep

/-- **A delay is above the limit only where it is the limit, rounded up.** -/
theorem Rule.lt_delay_iff (n : ℕ) :
    r.maxMs < r.delay n ↔ r.delay n = rounded r.maxMs ∧ r.maxMs < rounded r.maxMs := by
  constructor
  · intro hover
    cases n with
    | zero => exact absurd hover (not_lt.mpr (min_le_right _ _))
    | succ n =>
      have hle := r.delay_succ_le hmax hfactor n
      have hge := rounded_mono hover.le (r.delay_le_greatest hmax hfactor (n + 1))
      rw [r.rounded_delay_succ hmax hfactor] at hge
      have heq := le_antisymm hle hge
      exact ⟨heq, heq ▸ hover⟩
  · rintro ⟨heq, hover⟩
    rw [heq]
    exact hover

/-- **A delay is below the one before it only where that is the first, rounded down.** -/
theorem Rule.delay_succ_lt_iff (n : ℕ) :
    r.delay (n + 1) < r.delay n ↔
      n = 0 ∧ r.delay (n + 1) = rounded (r.delay n) ∧ rounded (r.delay n) < r.delay n := by
  constructor
  · intro hshrinks
    cases n with
    | zero =>
      -- what is below the first delay and not below its rounded form is its rounded form
      have hge := r.rounded_delay_le hmax hfactor 0
      have hle := rounded_mono hshrinks.le (r.delay_le_greatest hmax hfactor 0)
      rw [r.rounded_delay_succ hmax hfactor] at hle
      have heq := le_antisymm hle hge
      exact ⟨rfl, heq, heq ▸ hshrinks⟩
    | succ n => exact absurd hshrinks (not_lt.mpr (r.delay_succ_mono hmax hfactor n))
  · rintro ⟨-, heq, hshrinks⟩
    rw [heq]
    exact hshrinks

end step

/-! ## §6. Runs -/

/-- **How far a run of delays keeps to its limit, and to its order.**  For every first delay, every
limit that a delay can have, every factor and any calls:

  * the next delay is above the limit exactly where it is the rounded limit and that is rounded up;
  * the delay that follows it is below it exactly where it is the first one since the run began, is
    rounded down, and its rounded form is what follows;
  * neither is ever by more than 1024 milliseconds, and neither happens with a limit below
    `2 ^ 53`, whatever the first delay and the factor. -/
theorem delay_within_rounding (r : Rule) (hmax : r.maxMs ≤ greatestDelay)
    (hfactor : r.multiplier.IsDouble) (calls : List Call) :
    let b := (start r).after calls
    let delay := b.next.1
    let following := b.next.2.next.1
    (r.maxMs < delay ↔ delay = rounded r.maxMs ∧ r.maxMs < rounded r.maxMs) ∧
    (following < delay ↔
      sinceReset calls = 0 ∧ following = rounded delay ∧ rounded delay < delay) ∧
    (delay ≤ r.maxMs + 1024 ∧ delay ≤ following + 1024) ∧
    (r.maxMs < 2 ^ 53 → delay ≤ r.maxMs ∧ delay ≤ following) := by
  intro b delay following
  have hb : b = ⟨r, r.delay (sinceReset calls), .ofNat (sinceReset calls)⟩ := after_eq r calls
  have hdelay : delay = r.delay (sinceReset calls) := congrArg currentMs hb
  have hfollowing : following = r.delay (sinceReset calls + 1) :=
    congrArg (fun run : Backoff => run.next.2.next.1) hb
  rw [hdelay, hfollowing]
  generalize sinceReset calls = n
  have hover := r.lt_delay_iff hmax hfactor n
  have hshrinks := r.delay_succ_lt_iff hmax hfactor n
  refine ⟨hover, hshrinks, ⟨?_, ?_⟩, ?_⟩
  · have hnear := rounded_near hmax
    omega
  · have hnear := rounded_near (r.delay_le_greatest hmax hfactor n)
    omega
  · intro hsmall
    have hlimit := rounded_of_lt hsmall
    have hbelow : r.delay n ≤ r.maxMs := by
      by_contra h
      have hround := (hover.mp (not_le.mp h)).2
      omega
    refine ⟨hbelow, ?_⟩
    by_contra h
    have hround := (hshrinks.mp (not_le.mp h)).2.2
    rw [rounded_of_lt (by omega)] at hround
    omega

/-- Nothing times an infinite factor is no number, and then the delay is the limit: with a limit
that is rounded up from an odd number the delay is one more than it. -/
theorem delay_within_rounding_of_nothing :
    let r : Rule := ⟨0, 2 ^ 53 + 3, .infinite false⟩
    let b := (start r).after [.next]
    r.maxMs ≤ greatestDelay ∧ r.multiplier.IsDouble ∧
      r.maxMs < b.next.1 ∧ b.next.1 ≤ r.maxMs + 1024 ∧ b.next.1 ≤ b.next.2.next.1 := by
  intro r b
  have hmax : r.maxMs ≤ greatestDelay := by decide +kernel
  have hfactor : r.multiplier.IsDouble := trivial
  obtain ⟨hover, hshrinks, ⟨hnear, -⟩, -⟩ := delay_within_rounding r hmax hfactor [.next]
  have hround : b.next.1 = rounded r.maxMs ∧ r.maxMs < rounded r.maxMs := by decide +kernel
  have hsecond : sinceReset [.next] ≠ 0 := by decide
  refine ⟨hmax, hfactor, hover.mpr hround, hnear, ?_⟩
  by_contra h
  exact hsecond (hshrinks.mp (not_le.mp h)).1

/-- **A delay can be above its limit, and the second one below the first.** -/
theorem delay_over_limit_and_shrinking :
    (start ⟨1, 2 ^ 53 + 3, .ofNat (10 ^ 16)⟩).next.2.next.1 = 2 ^ 53 + 4 ∧
      (start ⟨2 ^ 53 + 1, 2 ^ 53 + 1, .ofNat 1⟩).next.1 = 2 ^ 53 + 1 ∧
      (start ⟨2 ^ 53 + 1, 2 ^ 53 + 1, .ofNat 1⟩).next.2.next.1 = 2 ^ 53 := by
  decide +kernel

end LocalizedMail.Mail.Backoff

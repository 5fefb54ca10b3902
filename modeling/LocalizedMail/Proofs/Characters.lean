import LocalizedMail.Text.Blank

/-!
# ASCII characters

Facts about the character classes of tags, placeholders and names.  All of these classes are ASCII
only, so a fact about one character is a fact about a hundred and twenty-eight numbers:

  * `ascii_forall` reduces it to them;
  * letters and digits are never blank, and the two case maps stay inside them.
-/

namespace LocalizedMail.Text

/-! ## §1. Facts by table -/

/-- A fact about every ASCII number is a fact about every ASCII character. -/
theorem ascii_forall {P : Char → Prop} (h : ∀ n < 128, P (Char.ofNat n)) {c : Char}
    (hc : c.toNat < 128) : P c := by
  have hn := h c.toNat hc
  rwa [Char.ofNat_toNat] at hn

/-- Letters and digits are ASCII characters. -/
theorem toNat_lt_of_isAlphanum {c : Char} (h : c.isAlphanum) : c.toNat < 128 := by
  have hranges : (decide (c.val ≥ 'A'.val ∧ c.val ≤ 'Z'.val) ||
      (decide (c.val ≥ 'a'.val) && decide (c.val ≤ 'z'.val)) ||
      (decide (c.val ≥ '0'.val) && decide (c.val ≤ '9'.val))) = true := h
  simp only [Bool.or_eq_true, Bool.and_eq_true, decide_eq_true_eq, ge_iff_le,
    UInt32.le_iff_toNat_le] at hranges
  have hZ : 'Z'.val.toNat = 90 := rfl
  have hz : 'z'.val.toNat = 122 := rfl
  have h9 : '9'.val.toNat = 57 := rfl
  show c.val.toNat < 128
  omega

/-- A fact about every ASCII number is a fact about every letter and digit. -/
theorem alphanum_forall {P : Char → Prop}
    (h : ∀ n < 128, (Char.ofNat n).isAlphanum → P (Char.ofNat n)) {c : Char}
    (hc : c.isAlphanum) : P c :=
  ascii_forall (P := fun c => c.isAlphanum → P c) h (toNat_lt_of_isAlphanum hc) hc

/-! ## §2. Letters and digits -/

theorem isAlphanum_of_isAlpha {c : Char} (h : c.isAlpha) : c.isAlphanum := by
  simp only [Char.isAlphanum, h, Bool.true_or]

theorem isAlpha_of_isLower {c : Char} (h : c.isLower) : c.isAlpha := by
  show (c.isUpper || c.isLower) = true
  rw [h, Bool.or_true]

/-- No letter and no digit is blank. -/
theorem isBlank_of_isAlphanum {c : Char} (h : c.isAlphanum) : isBlank c = false :=
  alphanum_forall (P := fun c => isBlank c = false) (by decide +kernel) h

theorem isLower_toLower {c : Char} (h : c.isAlpha) : c.toLower.isLower :=
  alphanum_forall (P := fun c => c.isAlpha → c.toLower.isLower) (by decide +kernel)
    (isAlphanum_of_isAlpha h) h

/-- A capital or a digit: what upper case makes of a letter or digit. -/
def isCapital (c : Char) : Bool := c.isUpper || c.isDigit

theorem isCapital_toUpper {c : Char} (h : c.isAlphanum) : isCapital c.toUpper :=
  alphanum_forall (P := fun c => isCapital c.toUpper) (by decide +kernel) h

theorem isAlphanum_of_isCapital {c : Char} (h : isCapital c) : c.isAlphanum := by
  simp only [isCapital, Bool.or_eq_true] at h
  show ((c.isUpper || c.isLower) || c.isDigit) = true
  rcases h with h | h
  · rw [h, Bool.true_or, Bool.true_or]
  · rw [h, Bool.or_true]

theorem toLower_of_isLower {c : Char} (h : c.isLower) : c.toLower = c :=
  alphanum_forall (P := fun c => c.isLower → c.toLower = c) (by decide +kernel)
    (isAlphanum_of_isAlpha (isAlpha_of_isLower h)) h

theorem toUpper_of_isCapital {c : Char} (h : isCapital c) : c.toUpper = c :=
  alphanum_forall (P := fun c => isCapital c → c.toUpper = c) (by decide +kernel)
    (isAlphanum_of_isCapital h) h

/-! ## §3. Trimming -/

theorem trimEnd_of_last {cs : List Char} {c : Char} (h : isBlank c = false) :
    trimEnd (cs ++ [c]) = cs ++ [c] := by
  unfold trimEnd
  rw [List.reverse_append, List.reverse_singleton, List.singleton_append,
    List.dropWhile_cons_of_neg (by simp [h])]
  simp

/-- Trimming leaves characters alone of which none is blank. -/
theorem trimChars_eq_self {cs : List Char} (h : ∀ c ∈ cs, isBlank c = false) :
    trimChars cs = cs := by
  have hskip : cs.dropWhile isBlank = cs := by
    cases cs with
    | nil => rfl
    | cons c cs => exact List.dropWhile_cons_of_neg (by simp [h c])
  unfold trimChars
  rw [hskip]
  rcases List.eq_nil_or_concat cs with rfl | ⟨cs, c, rfl⟩
  · rfl
  · rw [List.concat_eq_append] at h ⊢
    exact trimEnd_of_last (h c (by simp))

theorem trim_eq_self {s : String} (h : ∀ c ∈ s.toList, isBlank c = false) : trim s = s := by
  unfold trim
  rw [trimChars_eq_self h, String.ofList_toList]

end LocalizedMail.Text

import LocalizedMail.Template.Subjects

/-!
# Capital letters are settled

The upper case of a character is read off two tables, and three things about the tables matter to
whoever capitalizes words: no character disappears, what comes out of the tables is not changed by
them again, and none of it stands between words.

All three are statements about some 1,600 code points that go in and 1,700 that come out.  They are
read off the bits of two numbers: a set of code points is the number with those bits (`mask`), and
two sets are disjoint when the conjunction of their numbers is zero.

  * `upperCase_cases`: a character is its own upper case, or its upper case comes from the tables;
  * `upperCase_upperCase`: the characters of an upper case are their own upper cases;
  * `isWordGap_of_mem_upperCase`: a gap between words in an upper case was a gap before.
-/

namespace LocalizedMail.Text

open LocalizedMail.Template (isWordGap)

/-! ## §1. Sets of code points as numbers -/

/-- The number whose bits are the code points of a list. -/
def mask (ns : List Nat) : Nat := ns.foldr (fun n m => 1 <<< n ||| m) 0

theorem testBit_mask (ns : List Nat) (n : Nat) : (mask ns).testBit n = decide (n ∈ ns) := by
  induction ns with
  | nil => simp [mask]
  | cons k ns ih =>
      show (1 <<< k ||| mask ns).testBit n = decide (n ∈ k :: ns)
      rw [Nat.testBit_or, Nat.one_shiftLeft, Nat.testBit_two_pow, ih]
      simp [List.mem_cons, eq_comm]

/-- Two lists of code points have none in common when their numbers have no bit in common. -/
theorem not_mem_of_mask_eq_zero {ns ms : List Nat} (h : mask ns &&& mask ms = 0) {n : Nat}
    (hn : n ∈ ns) : n ∉ ms := by
  intro hm
  have hbit : (mask ns &&& mask ms).testBit n = true := by
    rw [Nat.testBit_and, testBit_mask, testBit_mask]
    simp [hn, hm]
  simp [h] at hbit

/-! ## §2. What the tables change, and into what -/

/-- The code points of a run. -/
def CaseRun.numbers (r : CaseRun) : List Nat :=
  List.range' r.first ((r.last - r.first) / r.step + 1) r.step

theorem CaseRun.mem_numbers_of_moves {r : CaseRun} {c : Char} (h : r.moves c = true) :
    c.toNat ∈ r.numbers := by
  simp only [CaseRun.moves, Bool.and_eq_true, decide_eq_true_eq, beq_iff_eq] at h
  obtain ⟨⟨hfirst, hlast⟩, hstep⟩ := h
  -- the quotient counts the steps from the first code point
  have hdiv : (c.toNat - r.first) / r.step ≤ (r.last - r.first) / r.step :=
    Nat.div_le_div_right (by omega)
  have hsplit : r.step * ((c.toNat - r.first) / r.step) = c.toNat - r.first := by
    have hmod := Nat.div_add_mod (c.toNat - r.first) r.step
    omega
  exact List.mem_range'.mpr ⟨(c.toNat - r.first) / r.step, by omega, by omega⟩

/-- The code points that the tables of upper case change. -/
def lowerNumbers : List Nat :=
  upperCaseRuns.flatMap CaseRun.numbers ++ upperCaseSequences.map Prod.fst

/-- The characters that the tables of upper case hold. -/
def capitals : List Char :=
  (upperCaseRuns.flatMap fun r => r.numbers.map fun (n : Nat) => Char.ofNat (n + r.offset).toNat)
    ++ upperCaseSequences.flatMap fun e => e.2.map Char.ofNat

/-- The code points that stand between words. -/
def gapNumbers : List Nat :=
  [0x2D, 0x5F, 0x20, 0x85, 0xA0, 0x1680, 0x2028, 0x2029, 0x202F, 0x205F, 0x3000]
    ++ List.range' 0x9 5 ++ List.range' 0x2000 11

theorem toNat_mem_gapNumbers {c : Char} (h : isWordGap c = true) : c.toNat ∈ gapNumbers := by
  simp only [isWordGap, isBlank, Bool.or_eq_true, Bool.and_eq_true, beq_iff_eq,
    decide_eq_true_eq] at h
  simp only [gapNumbers, List.mem_append, List.mem_cons, List.not_mem_nil, or_false,
    List.mem_range'_1]
  rcases h with (rfl | rfl) | h
  · simp
  · simp
  · omega

set_option maxRecDepth 100000 in
/-- No capital is changed by the tables again, or stands between words. -/
theorem mask_lower_gap_and_capitals :
    mask (lowerNumbers ++ gapNumbers) &&& mask (capitals.map Char.toNat) = 0 := by
  decide +kernel

theorem capital_not_lower {d : Char} (h : d ∈ capitals) : d.toNat ∉ lowerNumbers := by
  intro hlow
  exact not_mem_of_mask_eq_zero mask_lower_gap_and_capitals
    (List.mem_append_left gapNumbers hlow) (List.mem_map_of_mem h)

theorem capital_not_gap {d : Char} (h : d ∈ capitals) : isWordGap d = false := by
  rw [← Bool.not_eq_true]
  intro hgap
  exact not_mem_of_mask_eq_zero mask_lower_gap_and_capitals
    (List.mem_append_right lowerNumbers (toNat_mem_gapNumbers hgap)) (List.mem_map_of_mem h)

/-! ## §3. The upper case of a character -/

theorem sequences_ne_nil : ∀ e ∈ upperCaseSequences, e.2 ≠ [] := by decide

/-- **A character is its own upper case, or its upper case comes from the tables.** -/
theorem upperCase_cases (c : Char) :
    upperCase c = [c] ∨
      (c.toNat ∈ lowerNumbers ∧ upperCase c ≠ [] ∧ ∀ d ∈ upperCase c, d ∈ capitals) := by
  -- the sequences are asked first, then the runs
  cases hseq : upperCaseSequences.lookup c.toNat with
  | some codes =>
      right
      have hup : upperCase c = codes.map Char.ofNat := by simp only [upperCase, hseq]
      obtain ⟨before, after, htable, -⟩ := List.lookup_eq_some_iff.mp hseq
      have hmem : (c.toNat, codes) ∈ upperCaseSequences := by rw [htable]; simp
      refine ⟨List.mem_append_right _ (List.mem_map_of_mem hmem), ?_, ?_⟩
      · rw [hup]
        simpa using sequences_ne_nil _ hmem
      · intro d hd
        rw [hup] at hd
        exact List.mem_append_right _ (List.mem_flatMap.mpr ⟨_, hmem, hd⟩)
  | none =>
      have hup : upperCase c = [CaseRun.apply upperCaseRuns c] := by simp only [upperCase, hseq]
      cases hrun : upperCaseRuns.find? (·.moves c) with
      | none =>
          left
          rw [hup, CaseRun.apply, hrun]
      | some r =>
          right
          have hmem : r ∈ upperCaseRuns := List.mem_of_find?_eq_some hrun
          have hnum : c.toNat ∈ r.numbers :=
            CaseRun.mem_numbers_of_moves (by simpa using List.find?_some hrun)
          refine ⟨List.mem_append_left _ (List.mem_flatMap.mpr ⟨r, hmem, hnum⟩), by simp [hup], ?_⟩
          intro d hd
          rw [hup, CaseRun.apply, hrun, List.mem_singleton] at hd
          rw [hd]
          exact List.mem_append_left _
            (List.mem_flatMap.mpr ⟨r, hmem, List.mem_map.mpr ⟨c.toNat, hnum, rfl⟩⟩)

theorem upperCase_ne_nil (c : Char) : upperCase c ≠ [] := by
  rcases upperCase_cases c with hself | ⟨-, hne, -⟩
  · simp [hself]
  · exact hne

/-- **Every character of an upper case is its own upper case.** -/
theorem upperCase_upperCase {c d : Char} (h : d ∈ upperCase c) : upperCase d = [d] := by
  rcases upperCase_cases c with hself | ⟨-, -, hcap⟩
  · rw [hself, List.mem_singleton] at h
    rw [h, hself]
  · -- a capital that the tables changed would be on both sides of them
    rcases upperCase_cases d with hd | ⟨hlow, -, -⟩
    · exact hd
    · exact absurd hlow (capital_not_lower (hcap d h))

/-- A gap between words in the upper case of a character was one before. -/
theorem isWordGap_of_mem_upperCase {c d : Char} (h : d ∈ upperCase c) (hd : isWordGap d = true) :
    isWordGap c = true := by
  rcases upperCase_cases c with hself | ⟨-, -, hcap⟩
  · rw [hself, List.mem_singleton] at h
    rwa [← h]
  · rw [capital_not_gap (hcap d h)] at hd
    exact absurd hd (by decide)

end LocalizedMail.Text

import LocalizedMail.Proofs.Capitals
import Mathlib.Data.List.Chain
import Mathlib.Data.List.Infix

/-!
# A name put in words

A template that has no subject line gets its name as one.  The name is cut into words, each word is
capitalized, and the words are joined again.  What the cutting finds is described without it
(`Runs`): words stand between gaps, and each goes as far as it can.

The line that comes out is tidy, and putting it in words once more changes nothing.  Two facts carry
this: cutting undoes joining as long as no word is empty or holds a gap, and a capitalized word is
still such a word and stays as it is when it is capitalized again (`isWord_capitalize`,
`capitalize_capitalize`).

  * `runs_iff`: the words of a text are its maximal runs, and there is one list of those;
  * `runs_join`, `spaced_join`: words joined by single spaces are cut into those words again, and
    nothing else in the line is a separator;
  * `humanize_tidy_and_stable`: the subject line that a name makes.
-/

namespace LocalizedMail.Text

variable {isSeparator : Char → Bool}

/-! ## §1. Maximal runs -/

/-- A word is not empty and holds no separator. -/
structure IsWord (isSeparator : Char → Bool) (word : List Char) : Prop where
  ne_nil : word ≠ []
  solid : ∀ c ∈ word, isSeparator c = false

/-- The words of a text: each stands behind nothing but separators, and ends where the text ends or
the next separator stands. -/
inductive Runs (isSeparator : Char → Bool) : List Char → List (List Char) → Prop where
  | gap (gap : List Char) (hgap : ∀ c ∈ gap, isSeparator c = true) : Runs isSeparator gap []
  | word (gap word rest : List Char) (later : List (List Char))
      (hgap : ∀ c ∈ gap, isSeparator c = true) (hword : IsWord isSeparator word)
      (hstop : ∀ c ∈ rest.head?, isSeparator c = true) (hlater : Runs isSeparator rest later) :
      Runs isSeparator (gap ++ word ++ rest) (word :: later)

/-- A separator in front of a text adds no word. -/
theorem Runs.cons_separator {c : Char} {cs : List Char} {ws : List (List Char)}
    (hc : isSeparator c = true) (h : Runs isSeparator cs ws) : Runs isSeparator (c :: cs) ws := by
  cases h with
  | gap gap hgap => exact .gap (c :: cs) (List.forall_mem_cons.mpr ⟨hc, hgap⟩)
  | word gap word rest later hgap hword hstop hlater =>
      exact .word (c :: gap) word rest later (List.forall_mem_cons.mpr ⟨hc, hgap⟩) hword hstop
        hlater

/-- A character that is no separator, in front of a text that begins with a word, lengthens that
word. -/
theorem Runs.cons_word {c d : Char} {ds w : List Char} {ws : List (List Char)}
    (hc : isSeparator c = false) (hd : isSeparator d = false)
    (h : Runs isSeparator (d :: ds) (w :: ws)) :
    Runs isSeparator (c :: d :: ds) ((c :: w) :: ws) := by
  generalize hcs : d :: ds = cs at h
  cases h with
  | word gap word rest later hgap hword hstop hlater =>
      cases gap with
      | nil =>
          have hword' : IsWord isSeparator (c :: w) :=
            ⟨List.cons_ne_nil c w, List.forall_mem_cons.mpr ⟨hc, hword.solid⟩⟩
          exact .word [] (c :: w) rest ws (by simp) hword' hstop hlater
      | cons g gap =>
          -- the gap would begin with the character `d`, which is no separator
          have hg : isSeparator g = true := hgap g List.mem_cons_self
          simp only [List.cons_append, List.cons.injEq] at hcs
          simp [← hcs.1, hd] at hg

/-- A text without words is a gap. -/
theorem Runs.separators {cs : List Char} (h : Runs isSeparator cs []) :
    ∀ c ∈ cs, isSeparator c = true := by
  cases h with
  | gap gap hgap => exact hgap

/-- The words that are found are maximal runs. -/
theorem runs_words (cs : List Char) : Runs isSeparator cs (words isSeparator cs) := by
  -- the cases are those of `words`: the end, a separator, and four that look one character ahead
  fun_induction words isSeparator cs with
  | case1 => exact .gap [] (by simp)
  | case2 c cs hc ih => exact ih.cons_separator hc
  | case3 c hc =>
      exact .word [] [c] [] [] (by simp) ⟨by simp, by simpa using hc⟩ (by simp) (.gap [] (by simp))
  | case4 c hc d ds hd ih =>
      exact .word [] [c] (d :: ds) _ (by simp) ⟨by simp, by simpa using hc⟩ (by simpa using hd) ih
  | case5 c hc d ds hd hnone ih =>
      -- a text that begins with `d` is no mere gap
      rw [hnone] at ih
      exact absurd (ih.separators d List.mem_cons_self) hd
  | case6 c hc d ds hd w ws hsome ih =>
      rw [hsome] at ih
      exact ih.cons_word (by simpa using hc) (by simpa using hd)

/-- Separators in front of a text add no word to those found. -/
theorem words_gap_append (gap cs : List Char) (hgap : ∀ c ∈ gap, isSeparator c = true) :
    words isSeparator (gap ++ cs) = words isSeparator cs := by
  induction gap with
  | nil => rfl
  | cons c gap ih =>
      obtain ⟨hc, hgap⟩ := List.forall_mem_cons.mp hgap
      show words isSeparator (c :: (gap ++ cs)) = words isSeparator cs
      rw [words.eq_def]
      simp only [hc, if_true, ih hgap]

/-- A word that the end of the text or a separator ends is found as it is. -/
theorem words_word_append (word rest : List Char) (hword : IsWord isSeparator word)
    (hstop : ∀ c ∈ rest.head?, isSeparator c = true) :
    words isSeparator (word ++ rest) = word :: words isSeparator rest := by
  obtain ⟨hne, hsolid⟩ := hword
  -- only the last character of the word looks at what stands behind it
  induction word with
  | nil => exact absurd rfl hne
  | cons c word ih =>
      obtain ⟨hc, hsolid⟩ := List.forall_mem_cons.mp hsolid
      cases word with
      | nil =>
          cases rest with
          | nil => simp [words, hc]
          | cons d ds => simp [words, hc, hstop d rfl]
      | cons d word =>
          have hd : isSeparator d = false := hsolid d List.mem_cons_self
          have htail := ih (List.cons_ne_nil d word) hsolid
          simp only [List.cons_append] at htail ⊢
          rw [words]
          simp only [hc, hd, Bool.false_eq_true, if_false, htail]

/-- **The words of a text are its maximal runs, and those are one list.** -/
theorem runs_iff {cs : List Char} {ws : List (List Char)} :
    Runs isSeparator cs ws ↔ ws = words isSeparator cs := by
  constructor
  · intro h
    induction h with
    | gap gap hgap =>
        have hwords := words_gap_append gap [] hgap
        rw [List.append_nil] at hwords
        rw [hwords, words]
    | word gap word rest later hgap hword hstop _ ih =>
        rw [List.append_assoc, words_gap_append gap _ hgap, words_word_append word rest hword hstop,
          ih]
  · intro h
    rw [h]
    exact runs_words cs

theorem Runs.isWord {cs : List Char} {ws : List (List Char)} (h : Runs isSeparator cs ws) :
    ∀ w ∈ ws, IsWord isSeparator w := by
  induction h with
  | gap gap hgap => simp
  | word gap word rest later _ hword _ _ ih => exact List.forall_mem_cons.mpr ⟨hword, ih⟩

/-! ## §2. Words joined by spaces -/

/-- **Cutting undoes joining**: the words of words joined by single spaces are those words. -/
theorem runs_join (hspace : isSeparator ' ' = true) (ws : List (List Char))
    (hws : ∀ w ∈ ws, IsWord isSeparator w) : Runs isSeparator ([' '].intercalate ws) ws := by
  induction ws with
  | nil => exact .gap [] (by simp)
  | cons w ws ih =>
      obtain ⟨hw, hws⟩ := List.forall_mem_cons.mp hws
      cases ws with
      | nil =>
          have hlast := Runs.word [] w [] [] (by simp) hw (by simp) (.gap [] (by simp))
          simpa using hlast
      | cons v ws =>
          have hrest : Runs isSeparator (' ' :: [' '].intercalate (v :: ws)) (v :: ws) :=
            (ih hws).cons_separator hspace
          have hline := Runs.word [] w _ (v :: ws) (by simp) hw (by simpa using hspace) hrest
          rw [List.intercalate_cons_cons]
          simpa using hline

/-- A line has no separator at its ends, no two in a row, and none but spaces. -/
structure Spaced (isSeparator : Char → Bool) (line : List Char) : Prop where
  head : ∀ c ∈ line.head?, isSeparator c = false
  last : ∀ c ∈ line.getLast?, isSeparator c = false
  chain : line.IsChain fun a b => ¬ (isSeparator a = true ∧ isSeparator b = true)
  spaces : ∀ c ∈ line, isSeparator c = true → c = ' '

/-- A word is such a line. -/
theorem IsWord.spaced {word : List Char} (h : IsWord isSeparator word) :
    Spaced isSeparator word where
  head := fun c hc => h.solid c (List.mem_of_mem_head? hc)
  last := fun c hc => h.solid c (List.mem_of_mem_getLast? hc)
  chain := by
    refine (List.pairwise_of_forall_mem_list fun a ha b _ => ?_).isChain
    simp [h.solid a ha]
  spaces := by
    intro c hc hsep
    simp [h.solid c hc] at hsep

/-- A word, a space and such a line are such a line. -/
theorem Spaced.cons_word {word line : List Char} (hword : IsWord isSeparator word)
    (hne : line ≠ []) (h : Spaced isSeparator line) :
    Spaced isSeparator (word ++ [' '] ++ line) where
  head := by
    intro c hc
    cases word with
    | nil => exact absurd rfl hword.ne_nil
    | cons d word =>
        have hd : d = c := by simpa using hc
        exact hword.solid c (by simp [hd])
  last := by
    -- there is something behind the space
    intro c hc
    rw [List.getLast?_append_of_ne_nil _ hne] at hc
    exact h.last c hc
  chain := by
    refine List.isChain_append.mpr ⟨List.isChain_append.mpr ⟨hword.spaced.chain, by simp, ?_⟩,
      h.chain, ?_⟩
    · intro a ha b _
      simp [hword.spaced.last a ha]
    · intro a _ b hb
      simp [h.head b hb]
  spaces := by
    intro c hc hsep
    rcases List.mem_append.mp hc with hc | hc
    · rcases List.mem_append.mp hc with hc | hc
      · exact hword.spaced.spaces c hc hsep
      · exact List.mem_singleton.mp hc
    · exact h.spaces c hc hsep

theorem join_ne_nil {w : List Char} (hw : IsWord isSeparator w) (ws : List (List Char)) :
    [' '].intercalate (w :: ws) ≠ [] := by
  cases ws with
  | nil => simpa using hw.ne_nil
  | cons v ws => simp [List.intercalate_cons_cons]

theorem spaced_join (ws : List (List Char)) (hws : ∀ w ∈ ws, IsWord isSeparator w) :
    Spaced isSeparator ([' '].intercalate ws) := by
  induction ws with
  | nil => exact ⟨by simp, by simp, by simp, by simp⟩
  | cons w ws ih =>
      obtain ⟨hw, hws⟩ := List.forall_mem_cons.mp hws
      cases ws with
      | nil => simpa using hw.spaced
      | cons v ws =>
          rw [List.intercalate_cons_cons]
          exact Spaced.cons_word hw (join_ne_nil (hws v List.mem_cons_self) ws) (ih hws)

/-! ## §3. Capitalized words -/

/-- Capitalizing a word again changes nothing. -/
theorem capitalize_capitalize (word : List Char) :
    capitalize (capitalize word) = capitalize word := by
  cases word with
  | nil => rfl
  | cons c cs =>
      cases hup : upperCase c with
      | nil => exact absurd hup (upperCase_ne_nil c)
      | cons u us =>
          -- the first character of the capitalized word came out of an upper case
          have hu : upperCase u = [u] := upperCase_upperCase (c := c) (by simp [hup])
          simp [capitalize, hup, hu]

end LocalizedMail.Text

namespace LocalizedMail.Template

open LocalizedMail.Text

/-- A capitalized word is a word. -/
theorem isWord_capitalize {word : List Char} (h : IsWord isWordGap word) :
    IsWord isWordGap (capitalize word) := by
  cases word with
  | nil => exact absurd rfl h.ne_nil
  | cons c cs =>
      obtain ⟨hc, hcs⟩ := List.forall_mem_cons.mp h.solid
      refine ⟨by simp [capitalize, upperCase_ne_nil], fun d hd => ?_⟩
      rcases List.mem_append.mp hd with hd | hd
      · rw [← Bool.not_eq_true]
        intro hgap
        simp [isWordGap_of_mem_upperCase hd hgap] at hc
      · exact hcs d hd

/-- The words of a name, capitalized, are words. -/
theorem isWord_of_mem_capitalized {name : List Char} {ws : List (List Char)}
    (h : Runs isWordGap name ws) : ∀ w ∈ ws.map capitalize, IsWord isWordGap w := by
  intro w hw
  obtain ⟨v, hv, rfl⟩ := List.mem_map.mp hw
  exact isWord_capitalize (h.isWord v hv)

/-! ## §4. The subject line that a name makes -/

theorem humanizeChars_of_runs {name : List Char} {ws : List (List Char)}
    (h : Runs isWordGap name ws) :
    humanizeChars name = [' '].intercalate (ws.map capitalize) := by
  rw [humanizeChars, ← runs_iff.mp h]

/-- The words of a subject line that a name makes are the words of the name, capitalized. -/
theorem runs_humanizeChars {name : List Char} {ws : List (List Char)}
    (h : Runs isWordGap name ws) :
    Runs isWordGap (humanizeChars name) (ws.map capitalize) := by
  rw [humanizeChars_of_runs h]
  exact runs_join (by decide) _ (isWord_of_mem_capitalized h)

theorem humanizeChars_humanizeChars (name : List Char) :
    humanizeChars (humanizeChars name) = humanizeChars name := by
  have hruns : Runs isWordGap name (words isWordGap name) := runs_words name
  have hsame : ((words isWordGap name).map capitalize).map capitalize
      = (words isWordGap name).map capitalize := by
    simp [capitalize_capitalize]
  rw [humanizeChars_of_runs (runs_humanizeChars hruns), hsame, ← humanizeChars_of_runs hruns]

/-- A line is tidy when no space leads, trails or follows a space, and spaces are the only blanks
and the only other separators in it. -/
structure Tidy (line : List Char) : Prop where
  no_leading : line.head? ≠ some ' '
  no_trailing : line.getLast? ≠ some ' '
  no_doubled : ¬ [' ', ' '] <:+: line
  no_hyphen : '-' ∉ line
  no_underscore : '_' ∉ line
  only_blank : ∀ c ∈ line, isBlank c = true → c = ' '

theorem Tidy.of_spaced {line : List Char} (h : Spaced isWordGap line) : Tidy line where
  no_leading := by
    intro hspace
    exact absurd (h.head ' ' hspace) (by decide)
  no_trailing := by
    intro hspace
    exact absurd (h.last ' ' hspace) (by decide)
  no_doubled := by
    intro htwo
    have htwo' := List.IsChain.infix h.chain htwo
    exact List.isChain_pair.mp htwo' (by decide)
  no_hyphen := by
    intro hmem
    exact absurd (h.spaces '-' hmem (by decide)) (by decide)
  no_underscore := by
    intro hmem
    exact absurd (h.spaces '_' hmem (by decide)) (by decide)
  only_blank := by
    intro c hc hblank
    exact h.spaces c hc (by simp [isWordGap, hblank])

/-- **The subject line that a name makes is tidy and stable.**

  * A name has one list of maximal runs of characters that are no hyphen, no underscore and no
    blank.
  * The line is those runs, each with the full upper case of its first character in place of that
    character, joined by single spaces.
  * The line is tidy.
  * Put in words once more, the line stays as it is. -/
theorem humanize_tidy_and_stable (name : String) :
    (∃! ws, Runs isWordGap name.toList ws) ∧
    (∀ ws, Runs isWordGap name.toList ws →
      (humanize name).toList = [' '].intercalate (ws.map capitalize)) ∧
    Tidy (humanize name).toList ∧
    humanize (humanize name) = humanize name := by
  have hline : (humanize name).toList = humanizeChars name.toList := by simp [humanize]
  have hruns : Runs isWordGap name.toList (words isWordGap name.toList) := runs_words name.toList
  refine ⟨⟨_, hruns, fun ws h => runs_iff.mp h⟩, ?_, ?_, ?_⟩
  · intro ws h
    rw [hline, humanizeChars_of_runs h]
  · rw [hline, humanizeChars_of_runs hruns]
    exact Tidy.of_spaced (spaced_join _ (isWord_of_mem_capitalized hruns))
  · rw [humanize, hline, humanizeChars_humanizeChars, humanize]

/-- An upper case may be longer than the character it replaces. -/
example : humanize "-ßa__ﬁn de\u00A0-jour" = "SSa FIn De Jour" := by decide +kernel

end LocalizedMail.Template

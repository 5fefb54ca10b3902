import LocalizedMail.Text.Markup

/-!
# What escaping leaves of a text

A value is written into a template by `escapeChars`.  What has to hold of the result is that a
reader of markup finds nothing new in it:

  * `filter_isMarkup_escapeChars`: no tag and no quotation mark is left;
  * `entityLed_escapeChars`: an ampersand that is left starts one of the five entities;
  * `escapeChars_eq_self`: a text with none of the five characters is written as it is.
-/

namespace LocalizedMail.Text

/-! ## §1. The characters of markup -/

/-- Whether a character opens or closes a tag or a quoted attribute. -/
def isMarkup (c : Char) : Bool := c == '<' || c == '>' || c == '"' || c == '\''

/-- Whether a character is written as an entity. -/
def isEscaped (c : Char) : Bool := c == '&' || isMarkup c

/-- The entities that `escape` writes. -/
def entities : List (List Char) :=
  ["&amp;".toList, "&lt;".toList, "&gt;".toList, "&quot;".toList, "&#39;".toList]

theorem escapeChar_of_plain {c : Char} (h : isEscaped c = false) : escapeChar c = [c] := by
  simp only [isEscaped, isMarkup, Bool.or_eq_false_iff, beq_eq_false_iff_ne] at h
  obtain ⟨hamp, ⟨⟨hlt, hgt⟩, hquot⟩, hapos⟩ := h
  unfold escapeChar
  split <;> first | contradiction | rfl

/-- A character is written as an entity or as itself. -/
theorem escapeChar_cases (c : Char) :
    escapeChar c ∈ entities ∨ isEscaped c = false ∧ escapeChar c = [c] := by
  cases h : isEscaped c with
  | false => exact Or.inr ⟨rfl, escapeChar_of_plain h⟩
  | true =>
    left
    simp only [isEscaped, isMarkup, Bool.or_eq_true, beq_iff_eq] at h
    rcases h with rfl | ((rfl | rfl) | rfl) | rfl <;> decide

/-! ## §2. No markup -/

/-- **A text that was escaped holds no tag and no quotation mark.** -/
theorem filter_isMarkup_escapeChars (cs : List Char) :
    (escapeChars cs).filter isMarkup = [] := by
  have hentity : ∀ e ∈ entities, e.filter isMarkup = [] := by decide
  unfold escapeChars
  induction cs with
  | nil => rfl
  | cons c cs ih =>
    rw [List.flatMap_cons, List.filter_append, ih, List.append_nil]
    rcases escapeChar_cases c with he | ⟨hc, he⟩
    · exact hentity _ he
    · rw [isEscaped, Bool.or_eq_false_iff] at hc
      rw [he, List.filter_cons_of_neg (by simp [hc.2]), List.filter_nil]

/-! ## §3. Ampersands -/

/-- Every ampersand of a text is the first character of an entity. -/
def EntityLed (cs : List Char) : Prop :=
  ∀ post, '&' :: post <:+ cs → ∃ e ∈ entities, e <+: '&' :: post

theorem entityLed_nil : EntityLed [] := by
  intro post h
  cases List.suffix_nil.mp h

/-- A character that is no ampersand can stand before such a text. -/
theorem EntityLed.cons {c : Char} {cs : List Char} (h : EntityLed cs) (hc : c ≠ '&') :
    EntityLed (c :: cs) := by
  intro post hpost
  rcases List.suffix_cons_iff.mp hpost with heq | hpost
  · exact absurd (List.cons.inj heq).1.symm hc
  · exact h post hpost

/-- An entity can stand before such a text: its only ampersand is its first character. -/
theorem EntityLed.entity {e cs : List Char} (h : EntityLed cs) (he : e ∈ entities) :
    EntityLed (e ++ cs) := by
  have hshape : ∀ e ∈ entities, ∃ body, e = '&' :: body ∧ '&' ∉ body := by
    intro e he
    exact ⟨e.tail, (by decide : ∀ e ∈ entities, e = '&' :: e.tail ∧ '&' ∉ e.tail) e he⟩
  obtain ⟨body, rfl, hbody⟩ := hshape e he
  have htail : ∀ xs : List Char, '&' ∉ xs → EntityLed (xs ++ cs) := by
    intro xs hxs
    induction xs with
    | nil => exact h
    | cons x xs ih =>
      rw [List.mem_cons, not_or] at hxs
      exact (ih hxs.2).cons (Ne.symm hxs.1)
  intro post hpost
  rcases List.suffix_cons_iff.mp hpost with heq | hpost
  · exact ⟨_, he, heq ▸ List.prefix_append ..⟩
  · exact htail body hbody post hpost

/-- **An ampersand in a text that was escaped starts an entity.** -/
theorem entityLed_escapeChars (cs : List Char) : EntityLed (escapeChars cs) := by
  unfold escapeChars
  induction cs with
  | nil => exact entityLed_nil
  | cons c cs ih =>
    rw [List.flatMap_cons]
    rcases escapeChar_cases c with he | ⟨hc, he⟩
    · exact ih.entity he
    · rw [he]
      refine ih.cons ?_
      rintro rfl
      cases hc

/-! ## §4. Texts that are left alone -/

/-- A text with nothing to escape is written as it is. -/
theorem escapeChars_eq_self {cs : List Char} (h : ∀ c ∈ cs, isEscaped c = false) :
    escapeChars cs = cs := by
  unfold escapeChars
  induction cs with
  | nil => rfl
  | cons c cs ih =>
    rw [List.flatMap_cons, escapeChar_of_plain (h c (List.mem_cons_self ..)),
      ih (fun d hd => h d (List.mem_cons_of_mem _ hd))]
    rfl

end LocalizedMail.Text

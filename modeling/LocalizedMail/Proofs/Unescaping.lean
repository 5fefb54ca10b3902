import LocalizedMail.Proofs.Supplied
import Mathlib.Algebra.Order.BigOperators.Group.List
import Mathlib.Algebra.Order.Group.Nat

/-!
# Escaped text can be read back

An escaped text says exactly which text it was made from: every ampersand in it starts an entity,
so a reader that replaces entities from left to right is never in doubt, whatever the text itself
looked like.  Different texts are therefore escaped differently.

That does not yet say that a rendering tells different values apart: a placeholder can be used more
than once, and where its value ends in the output is marked by nothing.  It does all the same.  If
one escaped value is shorter than the other, then so is the rendering; and if both are of one
length, then every segment of the one rendering stands where it stands in the other.

  * `unescapeChars_escapeChars`: what was escaped is read back;
  * `eq_of_flatMap_eq`: two fillings of one list of gaps that look the same are the same;
  * `text_eq_of_output_eq`: the value of a placeholder that is used shows in the rendering;
  * `escape_lossless`: both for every text, and what an escaped text looks like.
-/

namespace LocalizedMail

namespace Text

/-! ## §1. Reading back -/

/-- A character that is no ampersand stands for itself. -/
theorem unescapeChars_cons {c : Char} (hc : c ≠ '&') (cs : List Char) :
    unescapeChars (c :: cs) = c :: unescapeChars cs := by
  conv_lhs => unfold unescapeChars
  split <;> simp_all

/-- **One character is read back from what it was written as**, whatever follows. -/
theorem unescapeChars_escapeChar (c : Char) (cs : List Char) :
    unescapeChars (escapeChar c ++ cs) = c :: unescapeChars cs := by
  cases h : isEscaped c with
  | false =>
    have hc : c ≠ '&' := by
      intro heq
      subst heq
      cases h
    rw [escapeChar_of_plain h]
    exact unescapeChars_cons hc cs
  | true =>
    -- each of the five entities is read back whatever stands behind it
    simp only [isEscaped, isMarkup, Bool.or_eq_true, beq_iff_eq] at h
    rcases h with rfl | ((rfl | rfl) | rfl) | rfl <;> rfl

theorem unescapeChars_escapeChars (cs : List Char) : unescapeChars (escapeChars cs) = cs := by
  unfold escapeChars
  induction cs with
  | nil => rfl
  | cons c cs ih => rw [List.flatMap_cons, unescapeChars_escapeChar, ih]

theorem unescape_escape (s : String) : unescape (escape s) = s := by
  unfold unescape escape
  rw [String.toList_ofList, unescapeChars_escapeChars, String.ofList_toList]

theorem escapeChars_injective : Function.Injective escapeChars :=
  Function.LeftInverse.injective unescapeChars_escapeChars

end Text

/-! ## §2. Two fillings of the same gaps -/

section fillings

variable {α β : Type} {f g : α → List β} {xs : List α}

/-- Where no piece is longer and one is shorter, the whole is shorter. -/
theorem length_flatMap_lt (hle : ∀ x ∈ xs, (f x).length ≤ (g x).length)
    (hlt : ∃ x ∈ xs, (f x).length < (g x).length) :
    (xs.flatMap f).length < (xs.flatMap g).length := by
  rw [List.length_flatMap, List.length_flatMap]
  exact List.sum_lt_sum _ _ hle hlt

/-- Where all pieces are of one length and the wholes are the same, so are the pieces. -/
theorem eq_of_flatMap_eq_of_length (hlength : ∀ x ∈ xs, (f x).length = (g x).length)
    (heq : xs.flatMap f = xs.flatMap g) : ∀ x ∈ xs, f x = g x := by
  induction xs with
  | nil =>
    intro x hx
    cases hx
  | cons y ys ih =>
    rw [List.flatMap_cons, List.flatMap_cons] at heq
    obtain ⟨hfirst, hrest⟩ := List.append_inj heq (hlength y (List.mem_cons_self ..))
    intro x hx
    rcases List.mem_cons.mp hx with rfl | hx
    · exact hfirst
    · exact ih (fun z hz => hlength z (List.mem_cons_of_mem _ hz)) hrest x hx

section gap

variable {a b : List β} (hgaps : ∀ x ∈ xs, f x = g x ∨ f x = a ∧ g x = b)
  (hgap : ∃ x ∈ xs, f x = a ∧ g x = b) (heq : xs.flatMap f = xs.flatMap g)
include hgaps hgap heq

/-- A value that fills a gap is not longer than the one that can take its place. -/
theorem length_le_of_flatMap_eq : b.length ≤ a.length := by
  by_contra hlonger
  have hlt : a.length < b.length := Nat.lt_of_not_le hlonger
  obtain ⟨x, hx, hfx, hgx⟩ := hgap
  have hshorter : (xs.flatMap f).length < (xs.flatMap g).length := by
    refine length_flatMap_lt ?_ ⟨x, hx, by rw [hfx, hgx]; exact hlt⟩
    intro y hy
    rcases hgaps y hy with h | ⟨hfy, hgy⟩
    · rw [h]
    · rw [hfy, hgy]
      exact hlt.le
  rw [heq] at hshorter
  exact Nat.lt_irrefl _ hshorter

/-- **Two fillings that look the same are the same.**  Each gap holds the same in both, or else `a`
in the one and `b` in the other; there is a gap of the second kind. -/
theorem eq_of_flatMap_eq : a = b := by
  -- the two lengths are the same, for the same reason read both ways
  have hle : b.length ≤ a.length := length_le_of_flatMap_eq hgaps hgap heq
  have hge : a.length ≤ b.length := by
    refine length_le_of_flatMap_eq (fun x hx => ?_) ?_ heq.symm
    · exact (hgaps x hx).imp Eq.symm And.symm
    · obtain ⟨x, hx, hfx, hgx⟩ := hgap
      exact ⟨x, hx, hgx, hfx⟩
  have hpieces : ∀ x ∈ xs, (f x).length = (g x).length := by
    intro x hx
    rcases hgaps x hx with h | ⟨hfx, hgx⟩
    · rw [h]
    · rw [hfx, hgx]
      omega
  obtain ⟨x, hx, hfx, hgx⟩ := hgap
  have hsame := eq_of_flatMap_eq_of_length hpieces heq x hx
  rw [← hfx, ← hgx]
  exact hsame

end gap

end fillings

namespace Placeholder

/-! ## §3. Renderings -/

/-- **A value shows in the rendering.**  Two values with a text, given for a name that the template
uses, are of one text if the renderings read the same. -/
theorem text_eq_of_output_eq {template key : String} (used : key ∈ names template)
    (defaults : Table String String) (values : Variables) {j k : Json} {v w : String}
    (hj : valueText? j = some v) (hk : valueText? k = some w)
    (same : (render template defaults (values.insert key j)).output
      = (render template defaults (values.insert key k)).output) : v = w := by
  have hfill : ∀ (j : Json) (v : String), valueText? j = some v → ∀ t : Token,
      Piece.fill (effective? defaults (values.insert key j)) (.token t)
        = if String.ofList t.name = key then Text.escapeChars v.toList
          else t.segment (effective? defaults values) := by
    intro j v hv t
    exact segment_insert hv t
  -- the gaps are the placeholders of that name; all other pieces read the same in both renderings
  obtain ⟨u, hu, hname⟩ := exists_token_of_mem_names used
  have houtput := congrArg String.toList same
  rw [render_output, render_output] at houtput
  have hescaped : Text.escapeChars v.toList = Text.escapeChars w.toList := by
    refine eq_of_flatMap_eq ?_ ⟨.token u, hu, ?_, ?_⟩ houtput
    · intro p _
      cases p with
      | plain c => exact Or.inl rfl
      | token t =>
        rw [hfill j v hj, hfill k w hk]
        by_cases ht : String.ofList t.name = key
        · rw [if_pos ht, if_pos ht]
          exact Or.inr ⟨rfl, rfl⟩
        · rw [if_neg ht, if_neg ht]
          exact Or.inl rfl
    · rw [hfill j v hj, if_pos hname]
    · rw [hfill k w hk, if_pos hname]
  exact String.toList_inj.mp (Text.escapeChars_injective hescaped)

/-- **Escaping loses nothing.**

  * An escaped text holds none of the four characters that open or close a tag or a quoted
    attribute; every ampersand in it is the first character of one of the five entities; and
    reading the five entities back, in one pass from left to right, gives the text.
  * So different texts are escaped differently.
  * So different values render differently: whatever the template, as long as it uses the name, and
    whatever the other values and the defaults, two values with different texts for that name make
    different outputs. -/
theorem escape_lossless :
    (∀ s : String,
      (∀ c ∈ ['<', '>', '"', '\''], c ∉ (Text.escape s).toList) ∧
      Text.EntityLed (Text.escape s).toList ∧
      Text.unescape (Text.escape s) = s) ∧
    Function.Injective Text.escape ∧
    ∀ (template key : String), key ∈ names template →
      ∀ (defaults : Table String String) (values : Variables) (j k : Json) (v w : String),
        valueText? j = some v → valueText? k = some w → v ≠ w →
        (render template defaults (values.insert key j)).output
          ≠ (render template defaults (values.insert key k)).output := by
  have hchars : ∀ s : String, (Text.escape s).toList = Text.escapeChars s.toList :=
    fun s => String.toList_ofList
  refine ⟨?_, Function.LeftInverse.injective Text.unescape_escape, ?_⟩
  · intro s
    rw [hchars]
    refine ⟨?_, Text.entityLed_escapeChars s.toList, Text.unescape_escape s⟩
    intro c hc hmem
    have hmarkup : ∀ c ∈ ['<', '>', '"', '\''], Text.isMarkup c = true := by
      simp [Text.isMarkup]
    have hnone := List.filter_eq_nil_iff.mp (Text.filter_isMarkup_escapeChars s.toList) c hmem
    exact hnone (hmarkup c hc)
  · intro template key used defaults values j k v w hj hk hne same
    exact hne (text_eq_of_output_eq used defaults values hj hk same)

/-- A value that looks like escaped text is escaped once more, and read back as it was. -/
example : Text.escape "&lt; &amp;amp; <" = "&amp;lt; &amp;amp;amp; &lt;" ∧
    Text.unescape "&amp;lt; &amp;amp;amp; &lt;" = "&lt; &amp;amp; <" := by
  decide +kernel

end Placeholder

end LocalizedMail

import LocalizedMail.Proofs.Markup
import LocalizedMail.Proofs.Scanning

/-!
# What a rendering puts into a template

A template is cut before any value is looked at, and each placeholder of the cut is replaced on
its own.  So a value can only change the segment that stands in for its placeholder, and that
segment is escaped text or empty.

  * `Piece.filter_fill`: filling a piece neither adds nor removes a tag or a quotation mark;
  * `render_adds_no_markup`: the same for a whole rendering, with the segments named.
-/

namespace LocalizedMail.Placeholder

/-! ## §1. Placeholders as text -/

/-- No character of a placeholder is written as an entity. -/
theorem Token.WellFormed.not_escaped {t : Token} (ht : t.WellFormed) :
    ∀ c ∈ t.chars, Text.isEscaped c = false := by
  have hpad : ∀ c, isPadding c → Text.isEscaped c = false := by
    intro c hc
    simp only [isPadding, Bool.or_eq_true, beq_iff_eq] at hc
    rcases hc with ((rfl | rfl) | rfl) | rfl <;> decide
  have hname : ∀ c ∈ t.name, Text.isEscaped c = false := by
    intro c hc
    exact isInner_forall (P := fun c => Text.isEscaped c = false) (by decide +kernel)
      ((inner_of_isIdentifierChars ht.name_identifier).2 c hc)
  intro c hc
  simp only [Token.chars, List.mem_cons, List.mem_append, List.not_mem_nil, or_false] at hc
  rcases hc with rfl | rfl | ((hc | hc) | hc) | rfl | rfl
  · decide
  · decide
  · exact hpad c (ht.before_padding c hc)
  · exact hname c hc
  · exact hpad c (ht.after_padding c hc)
  · decide
  · decide

/-- A value that spells a placeholder is written as that placeholder. -/
theorem Token.WellFormed.escapeChars_chars {t : Token} (ht : t.WellFormed) :
    Text.escapeChars t.chars = t.chars :=
  Text.escapeChars_eq_self ht.not_escaped

/-! ## §2. One piece -/

section fill

variable (value? : String → Option String)

/-- The segment of a placeholder is its escaped value, or empty. -/
theorem Piece.fill_token_cases (t : Token) :
    (∃ v, value? (String.ofList t.name) = some v ∧
        Piece.fill value? (.token t) = Text.escapeChars v.toList) ∨
      value? (String.ofList t.name) = none ∧ Piece.fill value? (.token t) = [] := by
  cases hv : value? (String.ofList t.name) with
  | some v =>
    refine Or.inl ⟨v, rfl, ?_⟩
    simp only [Piece.fill, hv]
  | none =>
    refine Or.inr ⟨rfl, ?_⟩
    simp only [Piece.fill, hv]

theorem Piece.entityLed_fill_token (t : Token) :
    Text.EntityLed (Piece.fill value? (.token t)) := by
  rcases Piece.fill_token_cases value? t with ⟨v, -, hfill⟩ | ⟨-, hfill⟩
  · rw [hfill]
    exact Text.entityLed_escapeChars v.toList
  · rw [hfill]
    exact Text.entityLed_nil

/-- A placeholder and the segment that replaces it hold no tag and no quotation mark. -/
theorem Piece.filter_fill {p : Piece} (hp : ∀ t, p = .token t → t.WellFormed) :
    (p.fill value?).filter Text.isMarkup = p.chars.filter Text.isMarkup := by
  cases p with
  | plain c => rfl
  | token t =>
    have hchars : t.chars.filter Text.isMarkup = [] := by
      rw [← (hp t rfl).escapeChars_chars]
      exact Text.filter_isMarkup_escapeChars t.chars
    show _ = t.chars.filter Text.isMarkup
    rw [hchars]
    rcases Piece.fill_token_cases value? t with ⟨v, -, hfill⟩ | ⟨-, hfill⟩
    · rw [hfill]
      exact Text.filter_isMarkup_escapeChars v.toList
    · rw [hfill]
      rfl

end fill

/-! ## §3. A whole template -/

/-- Filling the pieces of a text neither adds nor removes a tag or a quotation mark. -/
theorem filter_flatMap_fill (value? : String → Option String) {ps : List Piece}
    (hps : ∀ t, .token t ∈ ps → t.WellFormed) :
    (ps.flatMap (Piece.fill value?)).filter Text.isMarkup
      = (ps.flatMap Piece.chars).filter Text.isMarkup := by
  induction ps with
  | nil => rfl
  | cons p ps ih =>
    have hp : ∀ t, p = .token t → t.WellFormed := by
      rintro t rfl
      exact hps t (List.mem_cons_self ..)
    have hrest : ∀ t, .token t ∈ ps → t.WellFormed := by
      intro t ht
      exact hps t (List.mem_cons_of_mem _ ht)
    rw [List.flatMap_cons, List.flatMap_cons, List.filter_append, List.filter_append, ih hrest,
      Piece.filter_fill value? hp]

theorem render_output (template : String) (defaults : Table String String)
    (values : Variables) :
    (render template defaults values).output.toList =
      (pieces template.toList).flatMap (Piece.fill (effective? defaults values)) := by
  show (String.ofList _).toList = _
  rw [String.toList_ofList]

/-- **A rendering adds no markup.**  A template has one cut, made before any value is known; for
all defaults and values the output is that cut with its placeholders replaced one by one, so what
was put in is never cut again.  Tags and quotation marks of the output are those of the template,
an ampersand in a segment starts an entity, and a value that spells a placeholder is copied. -/
theorem render_adds_no_markup (template : String) :
    ∃ ps, Scanned template.toList ps ∧
      ∀ (defaults : Table String String) (values : Variables),
        let fill := Piece.fill (effective? defaults values)
        let output := (render template defaults values).output.toList
        output = ps.flatMap fill ∧
          output.filter Text.isMarkup = template.toList.filter Text.isMarkup ∧
          (∀ t, .token t ∈ ps → Text.EntityLed (fill (.token t))) ∧
          (∀ t u : Token, .token t ∈ ps → u.WellFormed →
            effective? defaults values (String.ofList t.name) = some (String.ofList u.chars) →
            fill (.token t) = u.chars) := by
  have hscan := scanned_pieces template.toList
  refine ⟨pieces template.toList, hscan, ?_⟩
  intro defaults values fill output
  have hout : output = (pieces template.toList).flatMap fill :=
    render_output template defaults values
  refine ⟨hout, ?_, ?_, ?_⟩
  · rw [hout, filter_flatMap_fill _ fun t ht => hscan.wellFormed ht, hscan.chars]
  · intro t _
    exact Piece.entityLed_fill_token (effective? defaults values) t
  · intro t u _ hu hvalue
    rcases Piece.fill_token_cases (effective? defaults values) t with ⟨v, hv, hfill⟩ | ⟨hnone, -⟩
    · rw [hvalue] at hv
      cases hv
      show Piece.fill (effective? defaults values) (.token t) = u.chars
      rw [hfill, String.toList_ofList, hu.escapeChars_chars]
    · rw [hvalue] at hnone
      cases hnone

end LocalizedMail.Placeholder

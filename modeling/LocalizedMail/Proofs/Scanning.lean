import LocalizedMail.Placeholder
import LocalizedMail.Proofs.Characters
import Mathlib.Data.List.TakeWhile

/-!
# What the placeholder scanner finds

The scanner restarts one character later wherever no placeholder starts, so what it cuts out is
described without it: a cut is *leftmost* when every placeholder in it is well formed and no
well-formed placeholder starts at a character that stands for itself.

  * `Token.read?_eq_some_iff`: reading succeeds exactly on the text of a well-formed placeholder;
  * `scanned_pieces`: the pieces of a template are a leftmost cut of it;
  * `Scanned.eq_pieces`: there is no other;
  * `Scanned.chars`: written one after another, the pieces are the template.
-/

namespace LocalizedMail.Placeholder

/-! ## §1. Character classes -/

/-- The characters of an identifier are ASCII. -/
theorem isInner_forall {P : Char → Prop}
    (h : ∀ n < 128, isInner (Char.ofNat n) → P (Char.ofNat n)) {c : Char} (hc : isInner c) :
    P c := by
  have hlt : c.toNat < 128 := by
    simp only [isInner, Bool.or_eq_true, beq_iff_eq] at hc
    rcases hc with hc | rfl
    · exact Text.toNat_lt_of_isAlphanum hc
    · decide
  exact Text.ascii_forall (P := fun c => isInner c → P c) h hlt hc

theorem isPadding_of_isInner {c : Char} (h : isInner c) : isPadding c = false :=
  isInner_forall (P := fun c => isPadding c = false) (by decide +kernel) h

theorem isInner_of_isPadding {c : Char} (h : isPadding c) : isInner c = false := by
  cases hi : isInner c with
  | false => rfl
  | true => rw [isPadding_of_isInner hi] at h; cases h

theorem isInner_of_isInitial {c : Char} (h : isInitial c) : isInner c := by
  simp only [isInitial, isInner, Bool.or_eq_true] at h ⊢
  rcases h with h | h
  · exact Or.inl (Text.isAlphanum_of_isAlpha h)
  · exact Or.inr h

/-- An identifier is not empty, and all its characters may stand in one. -/
theorem inner_of_isIdentifierChars {cs : List Char} (h : isIdentifierChars cs) :
    cs ≠ [] ∧ ∀ c ∈ cs, isInner c := by
  cases cs with
  | nil => cases h
  | cons c cs =>
    simp only [isIdentifierChars, Bool.and_eq_true, List.all_eq_true] at h
    refine ⟨List.cons_ne_nil _ _, ?_⟩
    intro d hd
    rcases List.mem_cons.mp hd with rfl | hd
    · exact isInner_of_isInitial h.1
    · exact h.2 d hd

/-! ## §2. Runs of a class -/

section runs

variable {p : Char → Bool} {xs : List Char} {c : Char} (ys : List Char)

/-- A run ends where the class does. -/
theorem takeWhile_run (hxs : ∀ x ∈ xs, p x) (hc : p c = false) :
    (xs ++ c :: ys).takeWhile p = xs := by
  rw [List.takeWhile_append_of_pos hxs, List.takeWhile_cons_of_neg (by simp [hc]),
    List.append_nil]

theorem dropWhile_run (hxs : ∀ x ∈ xs, p x) (hc : p c = false) :
    (xs ++ c :: ys).dropWhile p = c :: ys := by
  rw [List.dropWhile_append_of_pos hxs, List.dropWhile_cons_of_neg (by simp [hc])]

end runs

/-! ## §3. Well-formed placeholders -/

/-- A placeholder as the grammar has it: an identifier between two runs of padding. -/
structure Token.WellFormed (t : Token) : Prop where
  before_padding : ∀ c ∈ t.before, isPadding c
  name_identifier : isIdentifierChars t.name
  after_padding : ∀ c ∈ t.after, isPadding c

theorem Token.chars_append (t : Token) (rest : List Char) :
    t.chars ++ rest =
      '\x7b' :: '\x7b' :: (t.before ++ (t.name ++ (t.after ++ '\x7d' :: '\x7d' :: rest))) := by
  simp only [Token.chars, List.cons_append, List.append_assoc, List.nil_append]

/-- **Completeness**: a well-formed placeholder at the start of a text is read, whole and alone. -/
theorem Token.read?_chars {t : Token} (ht : t.WellFormed) (rest : List Char) :
    read? (t.chars ++ rest) = some (t, rest) := by
  obtain ⟨before, name, after⟩ := t
  obtain ⟨hb, hn, ha⟩ := ht
  dsimp only at hb hn ha
  obtain ⟨hne, hinner⟩ := inner_of_isIdentifierChars hn
  obtain ⟨c, cs, rfl⟩ := List.exists_cons_of_ne_nil hne
  have hc : isPadding c = false := isPadding_of_isInner (hinner c (List.mem_cons_self ..))
  -- The padding after the name, or the closing brace, ends the name.
  have hstop : ∃ d ds, after ++ '\x7d' :: '\x7d' :: rest = d :: ds ∧ isInner d = false := by
    cases after with
    | nil => exact ⟨_, _, rfl, by decide⟩
    | cons d ds => exact ⟨d, _, rfl, isInner_of_isPadding (ha d (List.mem_cons_self ..))⟩
  obtain ⟨d, ds, hd, hdi⟩ := hstop
  have hclose : isPadding '\x7d' = false := by decide
  rw [Token.chars_append]
  show readBody? _ = _
  unfold readBody?
  dsimp only
  rw [List.cons_append, takeWhile_run _ hb hc, dropWhile_run _ hb hc, ← List.cons_append, hd,
    takeWhile_run _ hinner hdi, dropWhile_run _ hinner hdi, ← hd, takeWhile_run _ ha hclose,
    dropWhile_run _ ha hclose, hn]
  rfl

/-- **Soundness**: what is read is a well-formed placeholder, and the text starts with it. -/
theorem Token.read?_sound {cs rest : List Char} {t : Token} (h : read? cs = some (t, rest)) :
    t.WellFormed ∧ cs = t.chars ++ rest := by
  unfold read? at h
  split at h
  · next cs =>
    unfold readBody? at h
    dsimp only at h
    split at h
    · next rest' hn hr =>
      obtain ⟨rfl, rfl⟩ := Prod.mk.injEq .. ▸ Option.some.injEq .. ▸ h
      refine ⟨⟨fun c hc => List.mem_takeWhile_imp hc, hn,
        fun c hc => List.mem_takeWhile_imp hc⟩, ?_⟩
      rw [Token.chars_append]
      dsimp only
      rw [← hr, List.takeWhile_append_dropWhile, List.takeWhile_append_dropWhile,
        List.takeWhile_append_dropWhile]
    · cases h
  · cases h

theorem Token.read?_eq_some_iff {cs rest : List Char} {t : Token} :
    read? cs = some (t, rest) ↔ t.WellFormed ∧ cs = t.chars ++ rest := by
  constructor
  · exact Token.read?_sound
  · rintro ⟨ht, rfl⟩
    exact Token.read?_chars ht rest

theorem Token.read?_eq_none_iff {cs : List Char} :
    read? cs = none ↔ ∀ t : Token, t.WellFormed → ¬ t.chars <+: cs := by
  constructor
  · rintro h t ht ⟨rest, rfl⟩
    rw [Token.read?_chars ht] at h
    cases h
  · intro h
    cases hr : read? cs with
    | none => rfl
    | some r =>
      obtain ⟨t, rest⟩ := r
      obtain ⟨ht, hcs⟩ := Token.read?_sound hr
      exact absurd ⟨rest, hcs.symm⟩ (h t ht)

/-! ## §4. Leftmost cuts -/

/-- A cut of a text into placeholders and single characters, such that no placeholder starts where
a single character was taken. -/
inductive Scanned : List Char → List Piece → Prop
  | nil : Scanned [] []
  | token {t : Token} {rest : List Char} {ps : List Piece} (ht : t.WellFormed)
      (hrest : Scanned rest ps) : Scanned (t.chars ++ rest) (.token t :: ps)
  | plain {c : Char} {rest : List Char} {ps : List Piece}
      (hc : ∀ t : Token, t.WellFormed → ¬ t.chars <+: c :: rest) (hrest : Scanned rest ps) :
      Scanned (c :: rest) (.plain c :: ps)

theorem pieces_of_read {cs rest : List Char} {t : Token}
    (h : Token.read? cs = some (t, rest)) : pieces cs = .token t :: pieces rest := by
  rw [pieces.eq_def]
  split
  · next t' rest' h' =>
    rw [h] at h'
    obtain ⟨rfl, rfl⟩ := Prod.mk.injEq .. ▸ Option.some.injEq .. ▸ h'
    rfl
  · next h' => rw [h] at h'; cases h'

theorem pieces_of_plain {c : Char} {rest : List Char} (h : Token.read? (c :: rest) = none) :
    pieces (c :: rest) = .plain c :: pieces rest := by
  rw [pieces.eq_def]
  split
  · next h' => rw [h] at h'; cases h'
  · rfl

theorem pieces_nil : pieces [] = [] := by
  rw [pieces.eq_def]
  rfl

/-- **The pieces of a template are a leftmost cut of it.** -/
theorem scanned_pieces (cs : List Char) : Scanned cs (pieces cs) := by
  -- The recursion drops a whole placeholder or one character; the length falls either way.
  induction hlen : cs.length using Nat.strongRecOn generalizing cs with
  | ind n ih =>
    cases hr : Token.read? cs with
    | some r =>
      obtain ⟨t, rest⟩ := r
      obtain ⟨ht, hcs⟩ := Token.read?_sound hr
      have hlt : rest.length < cs.length := Token.read?_length hr
      rw [pieces_of_read hr, hcs]
      exact Scanned.token ht (ih rest.length (by omega) rest rfl)
    | none =>
      cases cs with
      | nil =>
        rw [pieces_nil]
        exact Scanned.nil
      | cons c rest =>
        rw [pieces_of_plain hr]
        rw [List.length_cons] at hlen
        exact Scanned.plain (Token.read?_eq_none_iff.mp hr) (ih rest.length (by omega) rest rfl)

/-- **A text has one leftmost cut**: the pieces the scanner finds. -/
theorem Scanned.eq_pieces {cs : List Char} {ps : List Piece} (h : Scanned cs ps) :
    ps = pieces cs := by
  induction h with
  | nil => exact pieces_nil.symm
  | token ht _ ih => rw [pieces_of_read (Token.read?_chars ht _), ← ih]
  | plain hc _ ih => rw [pieces_of_plain (Token.read?_eq_none_iff.mpr hc), ← ih]

/-- Written one after another, the pieces of a cut are the text. -/
theorem Scanned.chars {cs : List Char} {ps : List Piece} (h : Scanned cs ps) :
    ps.flatMap Piece.chars = cs := by
  induction h with
  | nil => rfl
  | token _ _ ih => rw [List.flatMap_cons, ih]; rfl
  | plain _ _ ih => rw [List.flatMap_cons, ih]; rfl

/-- Every placeholder of a cut is well formed. -/
theorem Scanned.wellFormed {cs : List Char} {ps : List Piece} (h : Scanned cs ps) {t : Token}
    (ht : Piece.token t ∈ ps) : t.WellFormed := by
  induction h with
  | nil => cases ht
  | token hu _ ih =>
    rcases List.mem_cons.mp ht with heq | ht
    · cases heq
      exact hu
    · exact ih ht
  | plain _ _ ih =>
    rcases List.mem_cons.mp ht with heq | ht
    · cases heq
    · exact ih ht

end LocalizedMail.Placeholder

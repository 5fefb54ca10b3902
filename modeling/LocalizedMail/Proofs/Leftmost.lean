import LocalizedMail.Proofs.Distinct
import LocalizedMail.Proofs.Interpolation

/-!
# The leftmost placeholders of a template

The scanner takes one character where no placeholder starts and tries again at the next.  A reader
of a template thinks in larger steps: the first placeholder, the text before it, and then the same
for what follows.  This file says that the two come to the same.

A *cut* is such a reading: texts and placeholders in turn.  It is leftmost when each placeholder is
the one that starts first in what remains after the one before it, and none is left in the text at
the end.  What *starts first* means is said by comparing with every other place at which a
placeholder could be read, so that broken braces before a placeholder, or around it, need no rule.

  * `IsFirst.unique`: the placeholder that starts first is one;
  * `Leftmost.unique`: so a template has one leftmost cut at most;
  * `Scanned.leftmost`: the pieces of the scanner make one;
  * `exists_unique_cut`: the cut of a template, and what is made of it.
-/

namespace LocalizedMail.Placeholder

/-! ## §1. The placeholder that starts first -/

/-- A placeholder stands in a text after `before` and in front of `after`, and none stands further
to the left. -/
structure IsFirst (cs before : List Char) (t : Token) (after : List Char) : Prop where
  wellFormed : t.WellFormed
  chars : cs = before ++ (t.chars ++ after)
  leftmost : ∀ (u : Token) (pre post : List Char), u.WellFormed →
    cs = pre ++ (u.chars ++ post) → before.length ≤ pre.length

/-- There is no placeholder in a text. -/
def Bare (cs : List Char) : Prop := ∀ u : Token, u.WellFormed → ¬ u.chars <:+: cs

theorem Token.chars_ne_nil (t : Token) : t.chars ≠ [] := List.cons_ne_nil _ _

theorem bare_nil : Bare [] := fun u _ h => u.chars_ne_nil (List.infix_nil.mp h)

/-- A text with a placeholder in it is not bare. -/
theorem IsFirst.not_bare {cs before after : List Char} {t : Token} (h : IsFirst cs before t after) :
    ¬ Bare cs := by
  intro hbare
  refine hbare t h.wellFormed ⟨before, after, ?_⟩
  rw [h.chars, List.append_assoc]

/-- **The placeholder that starts first is one**: two that start at one place are one, because a
placeholder is read in one way. -/
theorem IsFirst.unique {cs before before' after after' : List Char} {t t' : Token}
    (h : IsFirst cs before t after) (h' : IsFirst cs before' t' after') :
    before = before' ∧ t = t' ∧ after = after' := by
  have hlength : before.length = before'.length :=
    Nat.le_antisymm (h.leftmost t' before' after' h'.wellFormed h'.chars)
      (h'.leftmost t before after h.wellFormed h.chars)
  obtain ⟨hbefore, hrest⟩ := List.append_inj (h.chars.symm.trans h'.chars) hlength
  have hread := Token.read?_chars h.wellFormed after
  rw [hrest, Token.read?_chars h'.wellFormed after'] at hread
  obtain ⟨ht, hafter⟩ := Prod.mk.inj (Option.some.inj hread)
  exact ⟨hbefore, ht.symm, hafter.symm⟩

section plain

variable {c : Char} {rest : List Char} (hc : ∀ u : Token, u.WellFormed → ¬ u.chars <+: c :: rest)
include hc

/-- A character at which no placeholder starts leaves a bare text bare. -/
theorem Bare.cons (h : Bare rest) : Bare (c :: rest) := by
  intro u hu hin
  rcases List.infix_cons_iff.mp hin with hstart | hin
  · exact hc u hu hstart
  · exact h u hu hin

/-- A character at which no placeholder starts goes to the text before the first one. -/
theorem IsFirst.cons {before after : List Char} {t : Token} (h : IsFirst rest before t after) :
    IsFirst (c :: rest) (c :: before) t after where
  wellFormed := h.wellFormed
  chars := congrArg (List.cons c) h.chars
  leftmost := by
    intro u pre post hu hcs
    cases pre with
    | nil => exact absurd ⟨post, hcs.symm⟩ (hc u hu)
    | cons d pre => exact Nat.succ_le_succ (h.leftmost u pre post hu (List.cons.inj hcs).2)

end plain

/-- A placeholder at the start of a text is the first. -/
theorem Token.WellFormed.isFirst {t : Token} (ht : t.WellFormed) (rest : List Char) :
    IsFirst (t.chars ++ rest) [] t rest :=
  ⟨ht, rfl, fun _ _ _ _ _ => Nat.zero_le _⟩

/-! ## §2. Leftmost cuts -/

/-- A text in parts: placeholders, each with the text before it, and the text after the last. -/
structure Cut where
  parts : List (List Char × Token)
  tail : List Char
  deriving DecidableEq, Repr

namespace Cut

/-- The placeholders of a cut. -/
def tokens (c : Cut) : List Token := c.parts.map Prod.snd

/-- The text with something in the place of each placeholder. -/
def fill (segment : Token → List Char) (c : Cut) : List Char :=
  c.parts.flatMap (fun part => part.1 ++ segment part.2) ++ c.tail

/-- The cut with one more character in front. -/
def consPlain (a : Char) : Cut → Cut
  | ⟨[], tail⟩ => ⟨[], a :: tail⟩
  | ⟨(before, t) :: parts, tail⟩ => ⟨(a :: before, t) :: parts, tail⟩

/-- The cut with one more placeholder in front. -/
def consToken (t : Token) (c : Cut) : Cut := ⟨([], t) :: c.parts, c.tail⟩

/-- The cut that pieces make. -/
def ofPieces : List Piece → Cut
  | [] => ⟨[], []⟩
  | .plain a :: ps => (ofPieces ps).consPlain a
  | .token t :: ps => (ofPieces ps).consToken t

theorem tokens_consPlain (a : Char) (c : Cut) : (c.consPlain a).tokens = c.tokens := by
  obtain ⟨parts, tail⟩ := c
  cases parts <;> rfl

theorem fill_consPlain (segment : Token → List Char) (a : Char) (c : Cut) :
    (c.consPlain a).fill segment = a :: c.fill segment := by
  obtain ⟨parts, tail⟩ := c
  cases parts <;> rfl

theorem fill_consToken (segment : Token → List Char) (t : Token) (c : Cut) :
    (c.consToken t).fill segment = segment t ++ c.fill segment := by
  unfold fill consToken
  rw [List.flatMap_cons, List.nil_append, List.append_assoc]

/-- Filling a cut is filling its pieces, where single characters stand for themselves. -/
theorem fill_ofPieces {f : Piece → List Char} (hplain : ∀ a, f (.plain a) = [a])
    (ps : List Piece) : (ofPieces ps).fill (fun t => f (.token t)) = ps.flatMap f := by
  induction ps with
  | nil => rfl
  | cons p ps ih =>
    cases p with
    | plain a => rw [ofPieces, fill_consPlain, ih, List.flatMap_cons, hplain]; rfl
    | token t => rw [ofPieces, fill_consToken, ih, List.flatMap_cons]

/-- The names of the placeholders of a cut are those of its pieces. -/
theorem names_ofPieces (ps : List Piece) :
    (ofPieces ps).tokens.map (fun t => String.ofList t.name) = ps.filterMap Piece.name? := by
  induction ps with
  | nil => rfl
  | cons p ps ih =>
    cases p with
    | plain a => rw [ofPieces, tokens_consPlain, ih]; rfl
    | token t => exact congrArg (List.cons (String.ofList t.name)) ih

end Cut

/-- A cut of a text in which each placeholder is the one that starts first in what remains after
the one before it. -/
inductive Leftmost : List Char → Cut → Prop
  /-- No placeholder remains. -/
  | tail {cs : List Char} (bare : Bare cs) : Leftmost cs ⟨[], cs⟩
  /-- A placeholder remains. -/
  | part {cs before after : List Char} {t : Token} {parts : List (List Char × Token)}
      {tail : List Char} (first : IsFirst cs before t after)
      (rest : Leftmost after ⟨parts, tail⟩) : Leftmost cs ⟨(before, t) :: parts, tail⟩

theorem Leftmost.unique {cs : List Char} {c c' : Cut} (h : Leftmost cs c) (h' : Leftmost cs c') :
    c = c' := by
  induction h generalizing c' with
  | tail bare =>
    cases h' with
    | tail => rfl
    | part first => exact absurd bare first.not_bare
  | part first _ ih =>
    cases h' with
    | tail bare => exact absurd bare first.not_bare
    | part first' rest' =>
      obtain ⟨rfl, rfl, rfl⟩ := first.unique first'
      obtain ⟨rfl, rfl⟩ := Cut.mk.inj (ih rest')
      rfl

/-- Every placeholder of a leftmost cut is well formed. -/
theorem Leftmost.wellFormed {cs : List Char} {c : Cut} (h : Leftmost cs c) {t : Token}
    (ht : t ∈ c.tokens) : t.WellFormed := by
  induction h with
  | tail => cases ht
  | part first _ ih =>
    rcases List.mem_cons.mp ht with rfl | ht
    · exact first.wellFormed
    · exact ih ht

/-- **The pieces that a scanner finds make a leftmost cut.** -/
theorem Scanned.leftmost {cs : List Char} {ps : List Piece} (h : Scanned cs ps) :
    Leftmost cs (Cut.ofPieces ps) := by
  induction h with
  | nil => exact .tail bare_nil
  | token ht _ ih => exact .part (ht.isFirst _) ih
  | @plain a rest ps hplain _ ih =>
    unfold Cut.ofPieces
    generalize Cut.ofPieces ps = c at ih ⊢
    cases ih with
    | tail bare => exact .tail (bare.cons hplain)
    | part first hrest => exact .part (first.cons hplain) hrest

/-! ## §3. What is made of a cut -/

/-- What stands in for a placeholder: its value, as text without markup, or nothing. -/
def Token.segment (value? : String → Option String) (t : Token) : List Char :=
  match value? (String.ofList t.name) with
  | some v => Text.escapeChars v.toList
  | none => []

theorem Leftmost.eq_ofPieces {template : String} {c : Cut} (h : Leftmost template.toList c) :
    c = Cut.ofPieces (pieces template.toList) :=
  h.unique (scanned_pieces template.toList).leftmost

/-- A rendering is the template with the placeholders of its cut filled in. -/
theorem Leftmost.output_render {template : String} {c : Cut} (h : Leftmost template.toList c)
    (defaults : Table String String) (values : Variables) :
    (render template defaults values).output.toList
      = c.fill (Token.segment (effective? defaults values)) := by
  rw [h.eq_ofPieces, render_output]
  exact (Cut.fill_ofPieces (f := Piece.fill (effective? defaults values)) (fun _ => rfl) _).symm

/-- A name of a template is the name of one of its placeholders. -/
theorem exists_token_of_mem_names {template key : String} (hkey : key ∈ names template) :
    ∃ t, .token t ∈ pieces template.toList ∧ String.ofList t.name = key := by
  obtain ⟨p, hp, hname⟩ := List.mem_filterMap.mp (mem_distinct.mp hkey)
  cases p with
  | plain c => cases hname
  | token t => exact ⟨t, hp, Option.some.inj hname⟩

theorem Leftmost.names_eq {template : String} {c : Cut} (h : Leftmost template.toList c) :
    names template = distinct (c.tokens.map fun t => String.ofList t.name) := by
  rw [h.eq_ofPieces, Cut.names_ofPieces]
  rfl

/-- **A template has one leftmost cut, and everything is made of it.**

  * Its placeholders are those of the grammar, each is the one that starts first in what remains
    after the one before it, and no other cut is like that.  Written as it stands, it is the
    template.
  * A rendering is the cut with each placeholder replaced by its escaped value, or by nothing where
    there is no value, and with the texts between them as they are.
  * The placeholders that are listed are those of the cut, each once, in the order in which they
    come first. -/
theorem exists_unique_cut (template : String) :
    ∃ c : Cut,
      (Leftmost template.toList c ∧ ∀ c', Leftmost template.toList c' → c' = c) ∧
      ((∀ t ∈ c.tokens, t.WellFormed) ∧ c.fill Token.chars = template.toList) ∧
      (∀ (defaults : Table String String) (values : Variables),
        (render template defaults values).output.toList
          = c.fill (Token.segment (effective? defaults values))) ∧
      (let found := c.tokens.map fun t => String.ofList t.name
       (∀ name, name ∈ names template ↔ name ∈ found) ∧
         (names template).Pairwise fun first second => found.idxOf first < found.idxOf second) := by
  have hscan := scanned_pieces template.toList
  have hcut := hscan.leftmost
  refine ⟨Cut.ofPieces (pieces template.toList), ⟨hcut, fun c' h => h.unique hcut⟩,
    ⟨fun t ht => hcut.wellFormed ht, ?_⟩, hcut.output_render, ?_⟩
  · exact (Cut.fill_ofPieces (f := Piece.chars) (fun _ => rfl) _).trans hscan.chars
  · intro found
    have hnames : names template = distinct found := hcut.names_eq
    rw [hnames]
    exact ⟨fun name => mem_distinct, pairwise_idxOf_distinct found⟩

/-- Broken braces hide no placeholder after them or inside them. -/
example : names "\x7b\x7b\x7bA\x7d\x7d\x7d \x7b\x7b \x7b\x7bb\x7d\x7d \x7b\x7bc d\x7d\x7d"
    = ["A", "b"] := by
  decide +kernel

end LocalizedMail.Placeholder

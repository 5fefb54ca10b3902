import LocalizedMail.Proofs.Absence
import LocalizedMail.Proofs.Leftmost

/-!
# Names that a template can use

A configuration gives default values by name, and a template uses values by name.  Which names a
configuration may give is decided by a loop over the characters of the name; which names a template
uses is found by the scanner, wherever it is in the template.  This file says that the two agree: a
name is an identifier exactly if some template uses it, and so no default is accepted that no
template could ever refer to, and none is refused that one could.

  * `isIdentifier_of_mem_names`: what a template uses is an identifier;
  * `names_of_token`: a placeholder alone uses its own name and no other;
  * `exists_create_iff`: which configurations an engine is made of;
  * `identifiers_are_referable`: all of it.
-/

namespace LocalizedMail

namespace Placeholder

/-! ## §1. What a template uses -/

/-- **Whatever the scanner finds in a template is an identifier.** -/
theorem isIdentifier_of_mem_names {template key : String} (hkey : key ∈ names template) :
    isIdentifier key = true := by
  obtain ⟨t, hmem, hname⟩ := exists_token_of_mem_names hkey
  have ht : t.WellFormed := (scanned_pieces template.toList).wellFormed hmem
  rw [← hname]
  unfold isIdentifier
  rw [String.toList_ofList]
  exact ht.name_identifier

/-- A well-formed placeholder is one piece. -/
theorem pieces_chars {t : Token} (ht : t.WellFormed) : pieces t.chars = [.token t] := by
  -- nothing is left behind the placeholder
  have hread : Token.read? t.chars = some (t, []) := by
    have h := Token.read?_chars ht []
    rwa [List.append_nil] at h
  rw [pieces_of_read hread, pieces_nil]

/-- **A placeholder alone uses its own name, and no other.** -/
theorem names_of_token {t : Token} (ht : t.WellFormed) :
    names (String.ofList t.chars) = [String.ofList t.name] := by
  unfold names
  rw [String.toList_ofList, pieces_chars ht]
  show distinct [String.ofList t.name] = _
  rw [distinct_cons]
  rfl

/-- A placeholder alone is rendered as its value. -/
theorem renderWith_of_token {t : Token} (ht : t.WellFormed) {value? : String → Option String}
    {v : String} (hv : value? (String.ofList t.name) = some v) :
    renderWith value? (String.ofList t.chars) = ⟨Text.escape v, []⟩ := by
  have hfill : Piece.fill value? (.token t) = Text.escapeChars v.toList := by
    unfold Piece.fill
    dsimp only
    rw [hv]
  have hmissing : Piece.missing? value? (.token t) = none := by
    unfold Piece.missing? Piece.name?
    dsimp only
    rw [hv]
    rfl
  unfold renderWith
  dsimp only
  rw [String.toList_ofList, pieces_chars ht, List.flatMap_singleton, hfill,
    List.filterMap_cons_none hmissing]
  rfl

/-- A name between two runs of padding and the braces around them. -/
def braced (before key after : String) : String :=
  "\x7b\x7b" ++ before ++ key ++ after ++ "\x7d\x7d"

/-- Whether a text can stand between the braces and the name. -/
def IsPadding (s : String) : Prop := ∀ c ∈ s.toList, isPadding c = true

theorem braced_eq (before key after : String) :
    braced before key after
      = String.ofList (Token.chars ⟨before.toList, key.toList, after.toList⟩) := by
  apply String.toList_inj.mp
  unfold braced Token.chars
  simp [String.toList_append]

theorem wellFormed_of_isIdentifier {before key after : String} (hbefore : IsPadding before)
    (hkey : isIdentifier key = true) (hafter : IsPadding after) :
    Token.WellFormed ⟨before.toList, key.toList, after.toList⟩ :=
  ⟨hbefore, hkey, hafter⟩

theorem names_braced {before key after : String} (hbefore : IsPadding before)
    (hkey : isIdentifier key = true) (hafter : IsPadding after) :
    names (braced before key after) = [key] := by
  rw [braced_eq, names_of_token (wellFormed_of_isIdentifier hbefore hkey hafter),
    String.ofList_toList]

theorem isPadding_empty : IsPadding "" := by
  intro c hc
  cases hc

/-- **A name is an identifier exactly if there is a template that uses it.** -/
theorem isIdentifier_iff_exists_names (key : String) :
    isIdentifier key = true ↔ ∃ template, key ∈ names template := by
  constructor
  · intro hkey
    refine ⟨braced "" key "", ?_⟩
    rw [names_braced isPadding_empty hkey isPadding_empty]
    exact List.mem_singleton_self key
  · intro hused
    obtain ⟨template, hmem⟩ := hused
    exact isIdentifier_of_mem_names hmem

end Placeholder

namespace Template

open Placeholder (names render renderWith effective? isIdentifier braced IsPadding)

/-! ## §2. What a configuration may give -/

/-- A configuration is good if its default language is a tag, its root is not empty and all its
default values are for identifiers. -/
theorem configFault?_eq_none_iff (config : Settings.Templates) :
    configFault? config = none ↔
      Language.isTag config.defaultLang = true ∧ config.root.isEmpty = false ∧
        ∀ key ∈ config.defaults.keys, isIdentifier key = true := by
  unfold configFault?
  -- the three conditions are looked at one after the other, and the first that fails is the fault
  cases htag : Language.isTag config.defaultLang with
  | false => simp
  | true =>
    cases hroot : config.root.isEmpty with
    | true => simp
    | false =>
      cases hfind : config.defaults.keys.find? fun key => !isIdentifier key with
      | none =>
        rw [List.find?_eq_none] at hfind
        simpa using hfind
      | some key =>
        have hbad := List.find?_some hfind
        have hmem := List.mem_of_find?_eq_some hfind
        simp only [Bool.not_true, Bool.false_eq_true, if_false, reduceCtorEq, true_and, false_iff]
        intro hall
        rw [hall key hmem] at hbad
        cases hbad

/-- A name that a configuration is refused for is one that it gives, and no identifier. -/
theorem of_configFault?_eq_notAnIdentifier {config : Settings.Templates} {key : String}
    (h : configFault? config = some (.notAnIdentifier key)) :
    key ∈ config.defaults.keys ∧ isIdentifier key = false := by
  unfold configFault? at h
  split at h
  · cases h
  · split at h
    · cases h
    · split at h
      · next found hfind =>
        cases h
        have hbad := List.find?_some hfind
        exact ⟨List.mem_of_find?_eq_some hfind, by simpa using hbad⟩
      · cases h

theorem exists_create_iff (config : Settings.Templates) (year : String) :
    (∃ e, Engine.create config year = .ok e) ↔ configFault? config = none := by
  unfold Engine.create
  cases configFault? config with
  | none => simp
  | some fault => simp

/-- A default that an engine was created with is the value of its name where no other is given. -/
theorem effective?_of_create {config : Settings.Templates} {year : String} {e : Engine}
    (created : Engine.create config year = .ok e) {key text : String}
    (hdefault : config.defaults.get? key = some text) :
    effective? e.defaults .empty key = some text := by
  show e.defaults.get? key = some text
  rw [Mail.get?_defaults_of_create created, hdefault]
  rfl

/-- **Names that a configuration may give, and names that a template can use, are the same.**

  * A name is an identifier exactly if some template uses it; and then it is the one name of the
    template that consists of it, between braces and any padding.
  * An engine is made of a configuration exactly if its default language is a tag, its root is not
    empty, and for each name that it gives a default there is a template that uses the name.
  * Each default of an engine can be referred to: the template that consists of its name in braces
    uses that name alone, and without any values it is rendered as that default, and nothing is
    missing.
  * A configuration that is refused for a name gives that name a default, and no template uses
    it. -/
theorem identifiers_are_referable :
    (∀ key : String,
      (isIdentifier key = true ↔ ∃ template, key ∈ names template) ∧
      (isIdentifier key = true → ∀ before after : String, IsPadding before → IsPadding after →
        names (braced before key after) = [key])) ∧
    ∀ (config : Settings.Templates) (year : String),
      ((∃ e, Engine.create config year = .ok e) ↔
        Language.isTag config.defaultLang = true ∧ config.root.isEmpty = false ∧
          ∀ key ∈ config.defaults.keys, ∃ template, key ∈ names template) ∧
      (∀ e, Engine.create config year = .ok e → ∀ key text,
        config.defaults.get? key = some text →
        ∀ before after : String, IsPadding before → IsPadding after →
          names (braced before key after) = [key] ∧
          render (braced before key after) e.defaults .empty = ⟨Text.escape text, []⟩) ∧
      (∀ key, Engine.create config year = .error (.invalidConfig (.notAnIdentifier key)) →
        key ∈ config.defaults.keys ∧ ∀ template, key ∉ names template) := by
  refine ⟨?names, ?configs⟩
  case names =>
    intro key
    refine ⟨Placeholder.isIdentifier_iff_exists_names key, ?_⟩
    intro hkey before after hbefore hafter
    exact Placeholder.names_braced hbefore hkey hafter
  case configs =>
    intro config year
    have hgood := exists_create_iff config year
    rw [configFault?_eq_none_iff] at hgood
    refine ⟨?accepted, ?referable, ?refused⟩
    case accepted =>
      -- the condition on the names is the same, name by name
      rw [hgood]
      simp only [Placeholder.isIdentifier_iff_exists_names]
    case referable =>
      intro e created key text hdefault before after hbefore hafter
      have hmem : key ∈ config.defaults.keys := by
        rw [← Table.get?_isSome_iff, hdefault]
        rfl
      have hkey : isIdentifier key = true := (hgood.mp ⟨e, created⟩).2.2 key hmem
      refine ⟨Placeholder.names_braced hbefore hkey hafter, ?_⟩
      have ht := Placeholder.wellFormed_of_isIdentifier hbefore hkey hafter
      have hvalue := effective?_of_create created hdefault
      rw [Placeholder.braced_eq]
      exact Placeholder.renderWith_of_token ht (by rw [String.ofList_toList]; exact hvalue)
    case refused =>
      intro key hrefused
      have hfault : configFault? config = some (.notAnIdentifier key) := by
        unfold Engine.create at hrefused
        cases hconfig : configFault? config with
        | none =>
          rw [hconfig] at hrefused
          cases hrefused
        | some fault =>
          rw [hconfig] at hrefused
          cases hrefused
          rfl
      obtain ⟨hmem, hbad⟩ := of_configFault?_eq_notAnIdentifier hfault
      refine ⟨hmem, ?_⟩
      intro template hused
      rw [Placeholder.isIdentifier_of_mem_names hused] at hbad
      cases hbad

/-- Nothing is made shorter to find a name in it. -/
example : names (braced "" "1st" "") = [] ∧ names (braced " " "st" "\t") = ["st"] := by
  decide +kernel

end Template

end LocalizedMail

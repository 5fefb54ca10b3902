import LocalizedMail.Proofs.Absence
import LocalizedMail.Proofs.Leftmost
import LocalizedMail.Proofs.Strictness

/-!
# What a rendering depends on

A rendering looks values up by the names of the placeholders that its template has, and by no
others.  So the values of these names are all that it depends on, wherever they come from: from the
caller, or from the defaults where the caller gives none or a null.

The same names are listed by `names` without any values.  What is missing in a rendering is that
list without the names that have a value; it is the same list whether names are left out before
repetitions are, or after.

  * `missing_renderWith`: what is missing, from the list of names;
  * `renderWith_congr`: a rendering depends on the values of the names of its template;
  * `render_of_used`: what that says about defaults and values;
  * `missing_eq_unsupplied`: what is missing in a rendering, and in a mail of a lenient engine.
-/

namespace LocalizedMail

namespace Placeholder

/-! ## §1. The names that a rendering looks up -/

section renderWith

variable {value? value?' : String → Option String} {template : String}

theorem Piece.missing?_eq (value? : String → Option String) (p : Piece) :
    p.missing? value? = p.name?.filter fun key => (value? key).isNone := by
  cases p with
  | plain c => rfl
  | token t =>
    unfold Piece.missing? Piece.name?
    rw [Option.filter_some]

/-- **What is missing is the list of names without those that have a value.** -/
theorem missing_renderWith (value? : String → Option String) (template : String) :
    (renderWith value? template).missing
      = (names template).filter fun key => (value? key).isNone := by
  unfold names renderWith
  rw [filter_distinct, List.filter_filterMap]
  dsimp only
  rw [funext (Piece.missing?_eq value?)]

/-- The name of a placeholder of the template is one of its names. -/
theorem name_mem_names {t : Token} (ht : .token t ∈ pieces template.toList) :
    String.ofList t.name ∈ names template :=
  mem_distinct.mpr (List.mem_filterMap.mpr ⟨.token t, ht, rfl⟩)

/-- **A rendering depends on nothing but the values of the names of its template.** -/
theorem renderWith_congr (same : ∀ key ∈ names template, value? key = value?' key) :
    renderWith value? template = renderWith value?' template := by
  have hfill : ∀ p ∈ pieces template.toList, p.fill value? = p.fill value?' := by
    intro p hp
    cases p with
    | plain c => rfl
    | token t =>
      unfold Piece.fill
      dsimp only
      rw [same _ (name_mem_names hp)]
  have hmissing : (renderWith value? template).missing = (renderWith value?' template).missing := by
    rw [missing_renderWith, missing_renderWith]
    exact List.filter_congr fun key hkey => by rw [same key hkey]
  have houtput : (renderWith value? template).output = (renderWith value?' template).output :=
    congrArg String.ofList (List.flatMap_congr hfill)
  calc renderWith value? template
    _ = ⟨(renderWith value? template).output, (renderWith value? template).missing⟩ := rfl
    _ = ⟨(renderWith value?' template).output, (renderWith value?' template).missing⟩ := by
      rw [houtput, hmissing]
    _ = renderWith value?' template := rfl

end renderWith

/-! ## §2. One value more, or one default -/

section update

variable (defaults : Table String String) (values : Variables) (key other : String)

theorem effective?_insert (j : Json) :
    effective? defaults (values.insert key j) other =
      if other = key then (valueText? j).or (defaults.get? other)
      else effective? defaults values other := by
  rw [effective?_eq, effective?_eq, given?, given?, Table.get?_insert]
  split <;> rfl

theorem effective?_insert_default (text : String) :
    effective? (defaults.insert key text) values other =
      if other = key then (given? values other).or (some text)
      else effective? defaults values other := by
  rw [effective?_eq, effective?_eq, Table.get?_insert]
  split <;> rfl

theorem effective?_erase_default :
    effective? (defaults.erase key) values other =
      if other = key then given? values other else effective? defaults values other := by
  rw [effective?_eq, effective?_eq, Table.get?_erase]
  split
  · exact Option.or_none
  · rfl

variable {defaults values key}

/-- A null is as good as no value. -/
theorem effective?_insert_null (absent : given? values key = none) :
    effective? defaults (values.insert key .null) = effective? defaults values := by
  funext other
  rw [effective?_insert]
  split
  · next h => subst h; rw [effective?_eq, absent]; rfl
  · rfl

/-- A default can be given as a value instead. -/
theorem effective?_move {text : String} (absent : given? values key = none)
    (default : defaults.get? key = some text) :
    effective? (defaults.erase key) (values.insert key (.text text))
      = effective? defaults values := by
  funext other
  rw [effective?_insert, effective?_erase_default]
  split
  · next h => subst h; rw [effective?_eq, absent, default]; rfl
  · rfl

/-! ## §3. A value that is there -/

section present

variable {j : Json} {text : String} (present : valueText? j = some text)
include present

/-- A value that is there counts, whatever the default. -/
theorem effective?_insert_present :
    effective? defaults (values.insert key j) other =
      if other = key then some text else effective? defaults values other := by
  rw [effective?_insert, present]
  rfl

/-- It changes the segments of its own placeholder only. -/
theorem segment_insert (t : Token) :
    t.segment (effective? defaults (values.insert key j)) =
      if String.ofList t.name = key then Text.escapeChars text.toList
      else t.segment (effective? defaults values) := by
  unfold Token.segment
  rw [effective?_insert_present _ present]
  by_cases h : String.ofList t.name = key
  · rw [if_pos h, if_pos h]
  · rw [if_neg h, if_neg h]

/-- Of what is missing it takes its own name away. -/
theorem missing_insert (template : String) :
    (render template defaults (values.insert key j)).missing
      = (render template defaults values).missing.filter fun other => other ≠ key := by
  unfold render
  rw [missing_renderWith, missing_renderWith, List.filter_filter]
  refine List.filter_congr fun other _ => ?_
  rw [effective?_insert_present other present]
  by_cases h : other = key <;> simp [h]

end present

end update

/-- **A rendering depends only on the effective values of the placeholders used.**

  * Whatever the defaults and the values are: if every name of the template has the same effective
    value, the renderings are the same.
  * A default or a value for any other name changes nothing; neither does a null for a name without
    a value, nor a text that is given as a value and no longer as a default.
  * A value that is not null is never missing.  It is put into its own placeholder and changes
    nothing else: the other segments are as they were, and so is the list of what is missing, apart
    from that name.  Zero, false and the empty text are such values. -/
theorem render_of_used (template : String) :
    (∀ (defaults defaults' : Table String String) (values values' : Variables),
      (∀ key ∈ names template,
        effective? defaults values key = effective? defaults' values' key) →
      render template defaults values = render template defaults' values') ∧
    (∀ (defaults : Table String String) (values : Variables) (key : String),
      (key ∉ names template →
        (∀ text, render template (defaults.insert key text) values
          = render template defaults values) ∧
        ∀ j, render template defaults (values.insert key j) = render template defaults values) ∧
      (given? values key = none →
        render template defaults (values.insert key .null) = render template defaults values ∧
        ∀ text, defaults.get? key = some text →
          render template (defaults.erase key) (values.insert key (.text text))
            = render template defaults values) ∧
      ∀ j, j.isNull = false →
        let before := render template defaults values
        let after := render template defaults (values.insert key j)
        let segment := Token.segment (effective? defaults values)
        key ∉ after.missing ∧ after.missing = before.missing.filter (fun other => other ≠ key) ∧
        ∃ text cut, valueText? j = some text ∧ Leftmost template.toList cut ∧
          before.output.toList = cut.fill segment ∧
          after.output.toList = cut.fill fun t =>
            if String.ofList t.name = key then Text.escapeChars text.toList else segment t) ∧
    [.whole 0, .bool false, .text ""].map valueText? = [some "0", some "false", some ""] := by
  refine ⟨fun _ _ _ _ => renderWith_congr, ?updates, by decide +kernel⟩
  intro defaults values key
  refine ⟨?unused, ?absent, ?present⟩
  case unused =>
    intro hkey
    have hne : ∀ other ∈ names template, other ≠ key := by
      rintro other hother rfl
      exact hkey hother
    constructor
    · intro text
      refine renderWith_congr fun other hother => ?_
      rw [effective?_insert_default, if_neg (hne other hother)]
    · intro j
      refine renderWith_congr fun other hother => ?_
      rw [effective?_insert, if_neg (hne other hother)]
  case absent =>
    intro absent
    unfold render
    rw [effective?_insert_null absent]
    refine ⟨rfl, fun text default => ?_⟩
    rw [effective?_move absent default]
  case present =>
    intro j hj before after segment
    obtain ⟨text, present⟩ := exists_valueText? hj
    have hmissing : after.missing = before.missing.filter fun other => other ≠ key :=
      missing_insert present template
    -- the template is cut before any value is known, so both renderings fill in one cut
    have hcut := (scanned_pieces template.toList).leftmost
    refine ⟨?_, hmissing, text, _, present, hcut, hcut.output_render defaults values, ?_⟩
    · rw [hmissing]
      simp
    · rw [hcut.output_render, funext (segment_insert present)]

/-- A guest who is named by a default and one who is named by a value get the same letter, whatever
else there is. -/
theorem render_of_used_letter :
    let template := "Dear \x7b\x7bNAME\x7d\x7d \x7b\x7bTITLE\x7d\x7d"
    let guest : Table String String := .ofList [("NAME", "guest"), ("YEAR", "2025")]
    let own : Variables := .ofList [("NAME", .text "guest"), ("TITLE", .null), ("PAGE", .whole 3)]
    let same := fun (defaults : Table String String) (values : Variables) =>
      render template defaults values = render template guest .empty
    ((∀ key ∈ names template, effective? .empty own key = effective? guest .empty key) ∧
        same .empty own) ∧
      ("YEAR" ∉ names template ∧ same (guest.insert "YEAR" "2026") .empty) ∧
      ((given? .empty "NAME" = none ∧ guest.get? "NAME" = some "guest") ∧
        same (guest.erase "NAME") (Table.insert .empty "NAME" (.text "guest"))) ∧
      (Json.whole 0).isNull = false ∧
        "TITLE" ∉ (render template guest (Table.insert .empty "TITLE" (.whole 0))).missing := by
  intro template guest own same
  have hagree : ∀ key ∈ names template, effective? .empty own key = effective? guest .empty key := by
    decide +kernel
  have hyear : "YEAR" ∉ names template := by decide +kernel
  obtain ⟨hsame, hupdate, -⟩ := render_of_used template
  exact ⟨⟨hagree, hsame _ _ _ _ hagree⟩, ⟨hyear, ((hupdate guest .empty "YEAR").1 hyear).1 "2026"⟩,
    ⟨⟨rfl, by decide⟩, ((hupdate guest .empty "NAME").2.1 rfl).2 "guest" (by decide)⟩,
    rfl, ((hupdate guest .empty "TITLE").2.2 (.whole 0) rfl).1⟩

/-! ## §4. What is missing in a rendering -/

/-- Whether a name has a value that is not null, or else a default. -/
def supplied (defaults : Table String String) (values : Variables) (key : String) : Bool :=
  (values.get? key).any (fun j => !j.isNull) || defaults.contains key

/-- The names of a template that have neither, in the order in which they are listed. -/
def unsupplied (template : String) (defaults : Table String String) (values : Variables) :
    List String :=
  (names template).filter fun key => !supplied defaults values key

theorem isNone_effective? (defaults : Table String String) (values : Variables) (key : String) :
    (effective? defaults values key).isNone = !supplied defaults values key := by
  rw [effective?_eq]
  unfold supplied given? Table.contains
  cases values.get? key with
  | none => simp
  | some j =>
    cases hj : j.isNull with
    | false =>
      obtain ⟨text, htext⟩ := exists_valueText? hj
      simp [hj, htext]
    | true => simp [hj, (valueText?_eq_none_iff j).mpr hj]

theorem missing_render (template : String) (defaults : Table String String) (values : Variables) :
    (render template defaults values).missing = unsupplied template defaults values := by
  unfold render unsupplied
  rw [missing_renderWith]
  simp only [isNone_effective?]

end Placeholder

/-! ## §5. What is missing in a mail -/

namespace Template

open Placeholder (Variables names render unsupplied)

namespace Engine

variable {e : Engine} (lenient : e.strict = false)
include lenient

theorem substitute_of_lenient (text : String) (values : Variables) :
    (e.substitute text values).1 = .ok (e.fillIn text values) := by
  unfold substitute fillIn
  rw [lenient]
  rfl

/-- A lenient engine makes a mail of every body that it can load. -/
theorem composeMail_of_lenient (disk : FileTree) (name lang : String) (values : Variables) :
    (e.composeMail disk name lang values).result
      = (e.store.load disk name lang).result.map fun text =>
          e.mailOf lang (e.fillIn text values) (e.fillInSubject name lang values) := by
  rw [composeMail_result_eq]
  cases (e.store.load disk name lang).result with
  | error fault => rfl
  | ok text =>
    dsimp only
    rw [substitute_of_lenient lenient]
    unfold mailFrom
    dsimp only
    rw [substitute_of_lenient lenient]
    rfl

end Engine

/-- **What is missing is what is listed without a value.**

  * What is missing in a rendering is the list of the names of the template without those that have
    a value that is not null or a default, in the same order and each once.
  * A lenient engine makes a mail of every body that loads.  Missing in it is what is missing in the
    body, and after that what is missing in the subject line and was not named before. -/
theorem missing_eq_unsupplied :
    (∀ (template : String) (defaults : Table String String) (values : Variables),
      let missing := (render template defaults values).missing
      missing = unsupplied template defaults values ∧
        missing.Sublist (names template) ∧ missing.Nodup) ∧
    ∀ (disk : FileTree) (e : Engine) (name lang : String) (values : Variables),
      e.strict = false →
      let unresolved := fun text => unsupplied text e.defaults values
      let line := e.subjects.resolve name lang
      (e.composeMail disk name lang values).result.map (fun mail => mail.missing)
        = (e.store.load disk name lang).result.map fun body =>
            unresolved body ++ (unresolved line).filter fun key => key ∉ unresolved body := by
  constructor
  · intro template defaults values missing
    have hmissing : missing = unsupplied template defaults values :=
      Placeholder.missing_render template defaults values
    refine ⟨hmissing, ?_, nodup_distinct _⟩
    rw [hmissing]
    exact List.filter_sublist
  · intro disk e name lang values lenient unresolved line
    rw [Engine.composeMail_of_lenient lenient]
    cases (e.store.load disk name lang).result with
    | error fault => rfl
    | ok body =>
      -- the mail joins what two renderings miss, and these are two lists of the same kind
      refine congrArg Except.ok ?_
      show Engine.joinMissing (e.fillIn body values).missing (e.fillIn line values).missing = _
      unfold Engine.joinMissing Engine.fillIn
      rw [Placeholder.missing_render, Placeholder.missing_render]
      simp only [List.contains_eq_mem, decide_not]
      rfl

/-- A lenient engine with a reminder that repeats its placeholders. -/
def reminding : Engine where
  store := ((Store.create "templates" "en").register "due"
    "\x7b\x7bNAME\x7d\x7d: \x7b\x7bDAY\x7d\x7d, \x7b\x7bNAME\x7d\x7d!" "en").state
  subjects := (Subjects.create "en").put "due"
    "\x7b\x7bSUM\x7d\x7d \x7b\x7bDAY\x7d\x7d \x7b\x7bSUM\x7d\x7d \x7b\x7bAPP_NAME\x7d\x7d" "en"
  defaults := builtinDefaults "2025"
  strict := false

/-- Each name is missing once, and the day is missing in the body. -/
theorem missing_eq_unsupplied_reminder :
    reminding.strict = false ∧
      (reminding.composeMail .empty "due" "en" (.ofList [("DAY", .null)])).result.map
        (fun mail => mail.missing) = .ok ["NAME", "DAY", "SUM"] := by
  refine ⟨rfl, ?_⟩
  rw [missing_eq_unsupplied.2 .empty reminding "due" "en" (.ofList [("DAY", .null)]) rfl]
  decide +kernel

end Template

end LocalizedMail

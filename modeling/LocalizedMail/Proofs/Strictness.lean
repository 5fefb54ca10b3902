import LocalizedMail.Proofs.Composing
import LocalizedMail.Proofs.Distinct

/-!
# Strict and lenient engines

A lenient engine makes a mail of whatever it can and lists what is missing; a strict one makes only
mails in which nothing is missing.  Apart from that the two do the same: they load the same body,
resolve the same subject line and put the same values in.

The list of a lenient engine joins what is missing in the body with what is missing in the subject
line.  A strict engine gives up at the first text that is incomplete, so it names what is missing in
that one text only.

  * `MadeTwice` and `madeTwice_composeMail`: the four ways in which a mail ends in both engines;
  * `joinMissing_eq_left_iff`: when the body alone accounts for all that is missing;
  * `strict_composeMail`: the two engines compared.
-/

namespace LocalizedMail.Template

open Placeholder (Rendered Variables)

namespace Engine

/-! ## §1. What is missing in a mail -/

/-- What is missing in two texts that name each missing value once is named once. -/
theorem nodup_joinMissing {first second : List String} (hfirst : first.Nodup)
    (hsecond : second.Nodup) : (joinMissing first second).Nodup := by
  unfold joinMissing
  rw [List.nodup_append]
  refine ⟨hfirst, hsecond.filter _, ?_⟩
  rintro name hname other hother rfl
  rw [List.mem_filter] at hother
  simp [hname] at hother

theorem joinMissing_nil_left (second : List String) : joinMissing [] second = second := by
  unfold joinMissing
  simp

/-- The first list is all there is exactly if the second adds nothing to it. -/
theorem joinMissing_eq_left_iff {first second : List String} :
    joinMissing first second = first ↔ ∀ name ∈ second, name ∈ first := by
  unfold joinMissing
  rw [List.append_right_eq_self, List.filter_eq_nil_iff]
  simp

theorem joinMissing_eq_nil_iff {first second : List String} :
    joinMissing first second = [] ↔ first = [] ∧ second = [] := by
  constructor
  · intro h
    obtain ⟨rfl, -⟩ := List.append_eq_nil_iff.mp h
    exact ⟨rfl, (joinMissing_nil_left second).symm.trans h⟩
  · rintro ⟨rfl, rfl⟩
    rfl

/-! ## §2. One engine, strict or lenient -/

/-- The same engine with the choice whether a missing value is an error. -/
def withStrict (e : Engine) (strict : Bool) : Engine := { e with strict := strict }

/-- A text of an engine with the values put in, however strict the engine is. -/
def fillIn (e : Engine) (text : String) (values : Variables) : Rendered :=
  Placeholder.render text e.defaults values

/-- The subject line of a mail with the values put in. -/
def fillInSubject (e : Engine) (name lang : String) (values : Variables) : Rendered :=
  e.fillIn (e.subjects.resolve name lang) values

/-- The mail of a body and a subject line, whatever is missing in them. -/
def mailOf (e : Engine) (lang : String) (body line : Rendered) : Composed where
  html := body.output
  subject := line.output
  lang := Language.orDefault lang e.defaultLang
  missing := joinMissing body.missing line.missing

theorem nodup_missing_fillIn (e : Engine) (text : String) (values : Variables) :
    (e.fillIn text values).missing.Nodup := nodup_distinct _

theorem substitute_lenient (e : Engine) (text : String) (values : Variables) :
    ((e.withStrict false).substitute text values).1 = .ok (e.fillIn text values) := rfl

theorem substitute_strict_of_complete {e : Engine} {text : String} {values : Variables}
    (complete : (e.fillIn text values).missing = []) :
    ((e.withStrict true).substitute text values).1 = .ok (e.fillIn text values) := by
  unfold fillIn at complete ⊢
  unfold substitute withStrict
  dsimp only
  rw [complete]
  rfl

theorem substitute_strict_of_incomplete {e : Engine} {text : String} {values : Variables}
    (lacking : (e.fillIn text values).missing ≠ []) :
    ((e.withStrict true).substitute text values).1
      = .error (.missingValues (e.fillIn text values).missing) := by
  unfold fillIn at lacking ⊢
  unfold substitute withStrict
  dsimp only
  rw [if_pos (by simpa using lacking)]

/-! ## §3. One mail in both engines -/

/-- The ways in which a mail ends in the lenient engine and in the strict one. -/
inductive MadeTwice (disk : FileTree) (e : Engine) (name lang : String) (values : Variables) :
    Except Fault Composed → Except Fault Composed → Prop
  /-- There is no body. -/
  | unloaded {fault : Fault} (loaded : (e.store.load disk name lang).result = .error fault) :
      MadeTwice disk e name lang values (.error fault) (.error fault)
  /-- The body is incomplete, and the strict engine does not come to the subject line. -/
  | bodyLacks {text : String} (loaded : (e.store.load disk name lang).result = .ok text)
      (lacking : (e.fillIn text values).missing ≠ []) :
      MadeTwice disk e name lang values
        (.ok (e.mailOf lang (e.fillIn text values) (e.fillInSubject name lang values)))
        (.error (.missingValues (e.fillIn text values).missing))
  /-- The body is complete and the subject line is not. -/
  | subjectLacks {text : String} (loaded : (e.store.load disk name lang).result = .ok text)
      (complete : (e.fillIn text values).missing = [])
      (lacking : (e.fillInSubject name lang values).missing ≠ []) :
      MadeTwice disk e name lang values
        (.ok (e.mailOf lang (e.fillIn text values) (e.fillInSubject name lang values)))
        (.error (.missingValues (e.fillInSubject name lang values).missing))
  /-- Nothing is missing. -/
  | complete {text : String} (loaded : (e.store.load disk name lang).result = .ok text)
      (complete : (e.fillIn text values).missing = [])
      (completeToo : (e.fillInSubject name lang values).missing = []) :
      MadeTwice disk e name lang values
        (.ok (e.mailOf lang (e.fillIn text values) (e.fillInSubject name lang values)))
        (.ok (e.mailOf lang (e.fillIn text values) (e.fillInSubject name lang values)))

section both

variable (disk : FileTree) (e : Engine) (name lang : String) (values : Variables)

/-- Without a body there is no mail, and with one it is a matter of two substitutions. -/
theorem composeMail_result_eq :
    (e.composeMail disk name lang values).result =
      match (e.store.load disk name lang).result with
      | .error fault => .error fault
      | .ok text => e.mailFrom name lang values (e.substitute text values).1 := by
  rw [composeMail_result]
  unfold renderReport
  dsimp only
  cases (e.store.load disk name lang).result with
  | error fault => rfl
  | ok text => rfl

theorem madeTwice_composeMail :
    MadeTwice disk e name lang values
      ((e.withStrict false).composeMail disk name lang values).result
      ((e.withStrict true).composeMail disk name lang values).result := by
  have hstore : ∀ strict, (e.withStrict strict).store = e.store := fun _ => rfl
  have hsubjects : ∀ strict, (e.withStrict strict).subjects = e.subjects := fun _ => rfl
  rw [composeMail_result_eq, composeMail_result_eq, hstore, hstore]
  cases hload : (e.store.load disk name lang).result with
  | error fault => exact .unloaded hload
  | ok text =>
    dsimp only
    rw [substitute_lenient]
    by_cases hbody : (e.fillIn text values).missing = []
    · rw [substitute_strict_of_complete hbody]
      unfold mailFrom
      dsimp only
      rw [substitute_lenient, hsubjects, hsubjects]
      by_cases hline : (e.fillInSubject name lang values).missing = []
      · rw [substitute_strict_of_complete hline]
        exact .complete hload hbody hline
      · rw [substitute_strict_of_incomplete hline]
        exact .subjectLacks hload hbody hline
    · rw [substitute_strict_of_incomplete hbody]
      exact .bodyLacks hload hbody

end both

/-- A template that cannot be loaded is not missing a value. -/
theorem load_error_ne_missingValues {disk : FileTree} {s : Store} {name lang : String}
    {fault : Fault} (h : (s.load disk name lang).result = .error fault) (keys : List String) :
    fault ≠ .missingValues keys := by
  have hspec := Store.load_spec disk s name lang
  generalize s.load disk name lang = step at h hspec
  cases hspec with
  | refused => obtain rfl := Except.error.inj h; exact Fault.noConfusion
  | requested => cases h
  | fellBack => cases h
  | nowhere => obtain rfl := Except.error.inj h; exact Fault.noConfusion

namespace MadeTwice

variable {disk : FileTree} {e : Engine} {name lang : String} {values : Variables}
  {lenient strict : Except Fault Composed}

/-- The strict engine makes the mails in which the lenient one misses nothing. -/
theorem ok_iff (h : MadeTwice disk e name lang values lenient strict) (mail : Composed) :
    strict = .ok mail ↔ lenient = .ok mail ∧ mail.missing = [] := by
  -- where the strict engine fails for a missing value, the list of the lenient one is not empty
  cases h with
  | unloaded => simp
  | bodyLacks _ lacking =>
    refine iff_of_false nofun ?_
    rintro ⟨hmail, hnone⟩
    obtain rfl := Except.ok.inj hmail
    exact lacking (joinMissing_eq_nil_iff.mp hnone).1
  | subjectLacks _ _ lacking =>
    refine iff_of_false nofun ?_
    rintro ⟨hmail, hnone⟩
    obtain rfl := Except.ok.inj hmail
    exact lacking (joinMissing_eq_nil_iff.mp hnone).2
  | complete _ complete completeToo =>
    constructor
    · intro hmail
      obtain rfl := Except.ok.inj hmail
      exact ⟨rfl, joinMissing_eq_nil_iff.mpr ⟨complete, completeToo⟩⟩
    · exact And.left

/-- Both engines fail for the same reasons, unless the reason is a missing value. -/
theorem error_iff (h : MadeTwice disk e name lang values lenient strict) (fault : Fault) :
    lenient = .error fault ↔ strict = .error fault ∧ ∀ keys, fault ≠ .missingValues keys := by
  cases h with
  | unloaded loaded =>
    constructor
    · intro hfault
      obtain rfl := Except.error.inj hfault
      exact ⟨rfl, load_error_ne_missingValues loaded⟩
    · exact And.left
  | bodyLacks =>
    refine iff_of_false nofun ?_
    rintro ⟨hfault, hother⟩
    exact hother _ (Except.error.inj hfault).symm
  | subjectLacks =>
    refine iff_of_false nofun ?_
    rintro ⟨hfault, hother⟩
    exact hother _ (Except.error.inj hfault).symm
  | complete => exact iff_of_false nofun fun h => nomatch h.1

/-- What the two engines say about a mail in which something is missing. -/
theorem lacking (h : MadeTwice disk e name lang values lenient strict) {mail : Composed}
    (made : lenient = .ok mail) (hlacking : mail.missing ≠ []) :
    ∃ text, (e.store.load disk name lang).result = .ok text ∧
      let inBody := (e.fillIn text values).missing
      let inSubject := (e.fillInSubject name lang values).missing
      mail.missing = joinMissing inBody inSubject ∧
        strict = .error (.missingValues (if inBody = [] then inSubject else inBody)) := by
  cases h with
  | unloaded => cases made
  | bodyLacks loaded lacking =>
    obtain rfl := Except.ok.inj made
    refine ⟨_, loaded, rfl, ?_⟩
    rw [if_neg lacking]
  | subjectLacks loaded complete lacking =>
    obtain rfl := Except.ok.inj made
    refine ⟨_, loaded, rfl, ?_⟩
    rw [if_pos complete]
  | complete _ complete completeToo =>
    obtain rfl := Except.ok.inj made
    exact absurd (joinMissing_eq_nil_iff.mpr ⟨complete, completeToo⟩) hlacking

end MadeTwice

/-- The first of two lists that is not empty is their join exactly if the other one adds nothing. -/
theorem first_eq_joinMissing_iff {first second : List String} :
    (if first = [] then second else first) = joinMissing first second ↔
      first = [] ∨ ∀ name ∈ second, name ∈ first := by
  by_cases hfirst : first = []
  · subst hfirst
    rw [if_pos rfl, joinMissing_nil_left]
    exact iff_of_true rfl (Or.inl rfl)
  · rw [if_neg hfirst, eq_comm, joinMissing_eq_left_iff, or_iff_right hfirst]

end Engine

/-! ## §4. The two engines compared -/

/-- **A strict engine makes the mails in which a lenient one misses nothing.**  Of an engine, strict
and lenient, in one state and over the same files:

  * both leave the same store, and they make the same mails where nothing is missing;
  * a mail in which the lenient engine misses values, each named once, the strict one refuses for
    what its body is missing, or if the body is complete, for what its subject line is missing;
  * the strict engine names all that the lenient one misses exactly if the body is complete or
    whatever is missing in the subject line is missing in the body too;
  * they fail alike for every other reason. -/
theorem strict_composeMail (disk : FileTree) (e : Engine) (name lang : String)
    (values : Variables) :
    let strict := (e.withStrict true).composeMail disk name lang values
    let lenient := (e.withStrict false).composeMail disk name lang values
    strict.state = lenient.state.withStrict true ∧
    (∀ mail, strict.result = .ok mail ↔ lenient.result = .ok mail ∧ mail.missing = []) ∧
    (∀ mail, lenient.result = .ok mail → mail.missing ≠ [] →
      ∃ text, (e.store.load disk name lang).result = .ok text ∧
        let inBody := (e.fillIn text values).missing
        let inSubject := (e.fillInSubject name lang values).missing
        mail.missing = Engine.joinMissing inBody inSubject ∧ mail.missing.Nodup ∧
        strict.result = .error (.missingValues (if inBody = [] then inSubject else inBody)) ∧
        (strict.result = .error (.missingValues mail.missing) ↔
          inBody = [] ∨ ∀ key ∈ inSubject, key ∈ inBody)) ∧
    (∀ fault, lenient.result = .error fault ↔
      strict.result = .error fault ∧ ∀ keys, fault ≠ .missingValues keys) := by
  intro strict lenient
  have hmade : e.MadeTwice disk name lang values lenient.result strict.result :=
    e.madeTwice_composeMail disk name lang values
  refine ⟨?state, hmade.ok_iff, ?lacking, hmade.error_iff⟩
  case state =>
    show (Engine.composeMail disk _ name lang values).state
      = (Engine.composeMail disk _ name lang values).state.withStrict true
    rw [Engine.composeMail_state, Engine.composeMail_state]
    rfl
  case lacking =>
    intro mail made lacking
    obtain ⟨text, loaded, hmissing, hrefused⟩ := hmade.lacking made lacking
    refine ⟨text, loaded, hmissing, ?_, hrefused, ?_⟩
    · rw [hmissing]
      exact Engine.nodup_joinMissing (e.nodup_missing_fillIn text values)
        (e.nodup_missing_fillIn _ values)
    · rw [hrefused, hmissing, ← Engine.first_eq_joinMissing_iff]
      simp

/-- An engine with a bill whose body and subject line each lack a value. -/
def billing : Engine where
  store := ((Store.create "templates" "en").register "bill" "\x7b\x7bAMOUNT\x7d\x7d" "en").state
  subjects := (Subjects.create "en").put "bill" "Bill \x7b\x7bNUMBER\x7d\x7d" "en"
  defaults := builtinDefaults "2025"
  strict := false

/-- **A strict engine does not name all that is missing.**  The lenient engine lists the amount in
the body and the number in the subject line; the strict one fails for the amount alone. -/
theorem strict_composeMail_names_body_only :
    (((billing.withStrict false).composeMail .empty "bill" "en" .empty).result.map (·.missing)
        = .ok ["AMOUNT", "NUMBER"]) ∧
      ((billing.withStrict true).composeMail .empty "bill" "en" .empty).result
        = .error (.missingValues ["AMOUNT"]) := by
  decide +kernel

end LocalizedMail.Template

import LocalizedMail.Proofs.Merging
import LocalizedMail.Settings.Decode

/-!
# What reading settings depends on

A section is read setting by setting, and all settings are read section by section, so each part of
the result comes from one entry only.

  * `ofValue_eq_ok_iff`, `Templates.ofValue_table_eq_ok_iff`: what a reading that succeeds has read;
  * `ofValue_of_templates`: another section on templates changes nothing else;
  * `Templates.ofValue_of_defaults`: other default values change nothing else in that section;
  * `asTexts_isOk_iff`: which values are taken for default values at all.
-/

namespace LocalizedMail.Settings

/-- A sequence of two steps succeeds if both do. -/
theorem bind_eq_ok {ε α β : Type} {x : Except ε α} {f : α → Except ε β} {b : β} :
    (x >>= f) = .ok b ↔ ∃ a, x = .ok a ∧ f a = .ok b := by
  cases x <;> simp [bind, Except.bind]

theorem ok_bind {ε α β : Type} (a : α) (f : α → Except ε β) : (Except.ok a >>= f) = f a := rfl

/-- Lists of results: each of them is that of an item, and each item has one. -/
theorem mem_mapM {ε α β : Type} {f : α → Except ε β} {xs : List α} {ys : List β}
    (h : xs.mapM f = .ok ys) :
    (∀ x ∈ xs, ∃ y ∈ ys, f x = .ok y) ∧ ∀ y ∈ ys, ∃ x ∈ xs, f x = .ok y := by
  induction xs generalizing ys with
  | nil =>
    cases h
    exact ⟨nofun, nofun⟩
  | cons x xs ih =>
    rw [List.mapM_cons] at h
    obtain ⟨y, hy, h⟩ := bind_eq_ok.1 h
    obtain ⟨rest, hrest, h⟩ := bind_eq_ok.1 h
    obtain rfl : y :: rest = ys := Except.ok.inj h
    obtain ⟨hitems, hresults⟩ := ih hrest
    constructor
    · rw [List.forall_mem_cons]
      refine ⟨⟨y, List.mem_cons_self, hy⟩, fun x' hx' => ?_⟩
      obtain ⟨y', hy', heq⟩ := hitems x' hx'
      exact ⟨y', List.mem_cons_of_mem y hy', heq⟩
    · rw [List.forall_mem_cons]
      refine ⟨⟨x, List.mem_cons_self, hy⟩, fun y' hy' => ?_⟩
      obtain ⟨x', hx', heq⟩ := hresults y' hy'
      exact ⟨x', List.mem_cons_of_mem x hx', heq⟩

theorem below_eq_ok {α : Type} {step : String} {r : Except Fault α} {a : α} :
    below step r = .ok a ↔ r = .ok a := by
  cases r <;> simp [below]

/-! ## §1. Tables of texts -/

namespace Value

/-- Exactly the single values are taken for texts. -/
theorem asText_isOk_iff {v : Value} : (∃ s, v.asText = .ok s) ↔ v.isSingle := by
  cases v <;> simp [asText, isSingle]

end Value

theorem textEntries_isOk_iff {es : List (String × Value)} :
    (∃ texts, textEntries es = .ok texts) ↔ ∀ e ∈ es, e.2.isSingle := by
  induction es with
  | nil => simp [textEntries]
  | cons e es ih =>
    rw [List.forall_mem_cons, ← ih, ← Value.asText_isOk_iff]
    simp only [textEntries, bind_eq_ok, below_eq_ok]
    constructor
    · rintro ⟨_, s, hs, more, hmore, -⟩
      exact ⟨⟨s, hs⟩, more, hmore⟩
    · rintro ⟨⟨s, hs⟩, more, hmore⟩
      exact ⟨(e.1, s) :: more, s, hs, more, hmore, rfl⟩

theorem asTexts_isOk_iff {v : Value} :
    (∃ texts, v.asTexts = .ok texts) ↔ ∃ o es, v = .table o es ∧ ∀ e ∈ es, e.2.isSingle := by
  cases v with
  | table o es =>
    constructor
    · rintro ⟨texts, h⟩
      cases hes : textEntries es with
      | error fault => simp [Value.asTexts, hes, Except.map] at h
      | ok found => exact ⟨o, es, rfl, textEntries_isOk_iff.1 ⟨found, hes⟩⟩
    · rintro ⟨_, _, heq, hsingle⟩
      cases heq
      obtain ⟨found, hes⟩ := textEntries_isOk_iff.2 hsingle
      exact ⟨.ofList found, by simp [Value.asTexts, hes, Except.map]⟩
  | _ => simp [Value.asTexts]

/-! ## §2. The section on templates -/

theorem Fields.get_named {α : Type} (es : List (String × Value)) (position : Nat) (name : String)
    (read : Value → Except Fault α) (instead : α) :
    (Fields.named es).get position name read instead
      = match es.lookup name with
        | some v => below name (read v)
        | none => .ok instead := by
  unfold Fields.get Fields.find?
  cases hv : es.lookup name <;> simp [hv]

namespace Templates

variable {o : Option String} {es es' : List (String × Value)} {t : Templates}

/-- The default values that a section given by its entries has. -/
def defaultsOf (es : List (String × Value)) : Except Fault (Table String String) :=
  (Fields.named es).get 2 "defaults" Value.asTexts .empty

theorem ofValue_table_eq_ok_iff :
    Templates.ofValue (.table o es) = .ok t ↔
      (Fields.named es).get 0 "default_lang" Value.asText "en" = .ok t.defaultLang ∧
      (Fields.named es).get 1 "templates_path" Value.asText "templates" = .ok t.root ∧
      defaultsOf es = .ok t.defaults ∧
      (Fields.named es).get 3 "strict" Value.asBool false = .ok t.strict := by
  simp only [Templates.ofValue, Value.asSection, bind_eq_ok, pure, Except.pure, Except.ok.injEq]
  constructor
  · rintro ⟨_, rfl, _, hlang, _, hroot, _, hdefaults, _, hstrict, rfl⟩
    exact ⟨hlang, hroot, hdefaults, hstrict⟩
  · rintro ⟨hlang, hroot, hdefaults, hstrict⟩
    exact ⟨_, rfl, _, hlang, _, hroot, _, hdefaults, _, hstrict, rfl⟩

/-- The section with other default values: they are read where they were read before, and the rest
of the section is the same. -/
theorem ofValue_of_defaults (o' : Option String) (h : Templates.ofValue (.table o es) = .ok t)
    (hother : ∀ name ≠ "defaults", es'.lookup name = es.lookup name) :
    Templates.ofValue (.table o' es')
      = (defaultsOf es').map fun defaults => { t with defaults := defaults } := by
  obtain ⟨hlang, hroot, -, hstrict⟩ := ofValue_table_eq_ok_iff.1 h
  rw [Fields.get_named, ← hother _ (by decide), ← Fields.get_named es' 0] at hlang
  rw [Fields.get_named, ← hother _ (by decide), ← Fields.get_named es' 1] at hroot
  rw [Fields.get_named, ← hother _ (by decide), ← Fields.get_named es' 3] at hstrict
  unfold Templates.ofValue
  cases hdefaults : defaultsOf es' <;> unfold defaultsOf at hdefaults
  · simp only [Value.asSection, ok_bind, hlang, hroot, hdefaults]
    rfl
  · simp only [Value.asSection, ok_bind, hlang, hroot, hdefaults, hstrict]
    rfl

end Templates

end Settings

/-! ## §3. All settings -/

namespace Settings

/-- The section on templates that settings given by their entries have. -/
def templatesOf (es : List (String × Value)) : Except Fault Templates :=
  (Fields.named es).get 0 "templates" Templates.ofValue {}

theorem ofValue_eq_ok_iff {v : Value} {s : Settings} :
    Settings.ofValue v = .ok s ↔
      templatesOf v.entries = .ok s.templates ∧
      (Fields.named v.entries).get 1 "smtp" Smtp.ofValue {} = .ok s.smtp ∧
      (Fields.named v.entries).get 2 "retry" Retry.ofValue {} = .ok s.retry ∧
      (Fields.named v.entries).get 3 "logging" Logging.ofValue {} = .ok s.logging := by
  simp only [Settings.ofValue, bind_eq_ok, pure, Except.pure, Except.ok.injEq]
  constructor
  · rintro ⟨_, htemplates, _, hsmtp, _, hretry, _, hlogging, rfl⟩
    exact ⟨htemplates, hsmtp, hretry, hlogging⟩
  · rintro ⟨htemplates, hsmtp, hretry, hlogging⟩
    exact ⟨_, htemplates, _, hsmtp, _, hretry, _, hlogging, rfl⟩

/-- Settings are read from the entries of four names. -/
theorem ofValue_congr {v w : Value}
    (h : ∀ name ∈ ["templates", "smtp", "retry", "logging"],
      w.entries.lookup name = v.entries.lookup name) :
    Settings.ofValue w = Settings.ofValue v := by
  unfold Settings.ofValue
  simp only [Fields.get_named]
  rw [h "templates" (by decide), h "smtp" (by decide), h "retry" (by decide),
    h "logging" (by decide)]

/-- Settings with another section on templates: it is read where it was read before, and the other
sections are the same. -/
theorem ofValue_of_templates {v w : Value} {s : Settings} (h : Settings.ofValue v = .ok s)
    (hother : ∀ name ∈ ["smtp", "retry", "logging"],
      w.entries.lookup name = v.entries.lookup name) :
    Settings.ofValue w
      = (templatesOf w.entries).map fun templates => { s with templates := templates } := by
  obtain ⟨-, hsmtp, hretry, hlogging⟩ := ofValue_eq_ok_iff.1 h
  rw [Fields.get_named, ← hother _ (by decide), ← Fields.get_named w.entries 1] at hsmtp
  rw [Fields.get_named, ← hother _ (by decide), ← Fields.get_named w.entries 2] at hretry
  rw [Fields.get_named, ← hother _ (by decide), ← Fields.get_named w.entries 3] at hlogging
  unfold Settings.ofValue
  cases htemplates : templatesOf w.entries <;> unfold templatesOf at htemplates
  · simp only [htemplates]
    rfl
  · simp only [htemplates, hsmtp, hretry, hlogging]
    rfl

end Settings

end LocalizedMail

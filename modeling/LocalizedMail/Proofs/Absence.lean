import LocalizedMail.Proofs.Composing

/-!
# Values that are null

A value that is null counts as absent: a placeholder whose value is null gets the default.  In a
bulk send there is one more place that a value can come from, because the values of a recipient are
put on top of shared ones.  They are put there key by key, null or not.  So a recipient whose value
is null gets the default and not the shared value: for this recipient the null *hides* the shared
value.

Nothing else can be seen of a null.  Where none hides anything, each placeholder gets the first
value that is there and not null, and the nulls can be left out.

  * `effective?_merge`: where the value of a placeholder comes from;
  * `composeAll_letterWith`: the letters of a bulk send, from the values of the placeholders;
  * `sendBulk_congr`: a bulk send depends on nothing but these values;
  * `sendBulk_nulls`: what nulls do to a bulk send.
-/

namespace LocalizedMail

/-! ## §1. Values without nulls -/

/-- Whether a value is null. -/
def Json.isNull : Json → Bool
  | .null => true
  | _ => false

namespace Placeholder

/-- Values without those that are null. -/
def withoutNulls (values : Variables) : Variables where
  entries := values.entries.filter fun e => !e.2.isNull
  nodup := values.nodup.sublist (List.filter_sublist.map Prod.fst)

/-- The text of the value of a key, if there is one that is not null. -/
def given? (values : Variables) (key : String) : Option String :=
  (values.get? key).bind valueText?

/-- The recipient's own value of a key is null, and the shared one is not. -/
def hides (own shared : Variables) (key : String) : Bool :=
  (own.get? key).any Json.isNull && (given? shared key).isSome

theorem valueText?_eq_none_iff (j : Json) : valueText? j = none ↔ j.isNull = true := by
  cases j <;> simp [valueText?, Json.isNull]

theorem exists_valueText? {j : Json} (h : j.isNull = false) : ∃ text, valueText? j = some text := by
  rw [← Option.ne_none_iff_exists', Ne, valueText?_eq_none_iff, h]
  exact Bool.false_ne_true

theorem get?_withoutNulls (values : Variables) (key : String) :
    (withoutNulls values).get? key = (values.get? key).filter fun j => !j.isNull := by
  obtain ⟨es, h⟩ := values
  show (es.filter fun e => !e.2.isNull).lookup key = (es.lookup key).filter _
  induction es with
  | nil => rfl
  | cons e es ih =>
    obtain ⟨k, j⟩ := e
    rw [List.map_cons, List.nodup_cons] at h
    by_cases hk : key = k
    · subst hk
      cases hj : j.isNull with
      | false => simp [hj, Option.filter_some]
      | true =>
        -- a null that is left out uncovers nothing, because its key does not come again
        rw [List.filter_cons_of_neg (by simp [hj]), ih h.2, lookup_eq_none_of_not_mem h.1]
        simp [hj, Option.filter_some]
    · have hb : (key == k) = false := by simpa using hk
      cases hj : j.isNull with
      | false => simpa [List.lookup_cons, hb, hj] using ih h.2
      | true => simpa [List.lookup_cons, hb, hj] using ih h.2

section values

variable (own shared values : Variables) (key : String)

/-- The nulls give no text, so they can be left out. -/
@[simp] theorem given?_withoutNulls : given? (withoutNulls values) key = given? values key := by
  unfold given?
  rw [get?_withoutNulls]
  cases values.get? key with
  | none => rfl
  | some j =>
    cases hj : j.isNull with
    | false => simp [hj, Option.filter_some]
    | true => simp [hj, Option.filter_some, (valueText?_eq_none_iff j).mpr hj]

@[simp] theorem hides_withoutNulls_right :
    hides own (withoutNulls shared) key = hides own shared key := by
  unfold hides
  rw [given?_withoutNulls]

/-- Values without nulls hide nothing. -/
@[simp] theorem hides_withoutNulls_left : hides (withoutNulls own) shared key = false := by
  unfold hides
  rw [get?_withoutNulls]
  cases own.get? key with
  | none => rfl
  | some j => cases hj : j.isNull <;> simp [hj, Option.filter_some]

/-! ## §2. Where a value comes from -/

/-- The first value of a key that is there and not null: the recipient's own, a shared one, or the
default. -/
def firstGiven? (defaults : Table String String) (own shared : Variables) (key : String) :
    Option String :=
  (given? own key).or ((given? shared key).or (defaults.get? key))

theorem effective?_eq (defaults : Table String String) :
    effective? defaults values key = (given? values key).or (defaults.get? key) := by
  unfold effective? given?
  cases (values.get? key).bind valueText? <;> rfl

/-- **A placeholder gets the first value that is there and not null, unless a null hides the shared
one; then it gets the default.** -/
theorem effective?_merge (defaults : Table String String) :
    effective? defaults (shared.merge own) key =
      if hides own shared key then defaults.get? key
      else firstGiven? defaults own shared key := by
  rw [effective?_eq]
  unfold firstGiven? hides given?
  rw [Table.get?_merge]
  cases own.get? key with
  | none => simp
  | some j =>
    cases hj : j.isNull with
    | false =>
      obtain ⟨text, htext⟩ := exists_valueText? hj
      simp [hj, htext]
    | true =>
      have hnone := (valueText?_eq_none_iff j).mpr hj
      cases hshared : (shared.get? key).bind valueText? <;> simp [hj, hnone]

end values

end Placeholder

/-! ## §3. Letters from the values of their placeholders -/

namespace Template.Engine

open Placeholder (Variables effective?)

section congr

variable {e : Engine} {values values' : Variables}

theorem substitute_congr (h : effective? e.defaults values = effective? e.defaults values')
    (text : String) : e.substitute text values = e.substitute text values' := by
  unfold substitute Placeholder.render
  rw [h]

theorem renderReport_congr (h : effective? e.defaults values = effective? e.defaults values')
    (disk : FileTree) (name lang : String) :
    e.renderReport disk name lang values = e.renderReport disk name lang values' := by
  unfold renderReport
  dsimp only
  cases (e.store.load disk name lang).result with
  | error fault => rfl
  | ok text =>
    dsimp only
    rw [substitute_congr h]

/-- **A mail depends on values only through what they are for its placeholders.** -/
theorem composeMail_congr (h : effective? e.defaults values = effective? e.defaults values')
    (disk : FileTree) (name lang : String) :
    e.composeMail disk name lang values = e.composeMail disk name lang values' := by
  have hline : ∀ line, (e.renderReport disk name lang values').state.substitute line values
      = (e.renderReport disk name lang values').state.substitute line values' := by
    intro line
    refine substitute_congr ?_ line
    rw [renderReport_state]
    exact h
  unfold composeMail
  dsimp only
  rw [renderReport_congr h, hline]

end congr

end Template.Engine

namespace Mail

open Placeholder (Variables effective? given? hides withoutNulls)

/-- The letter of a mail whose placeholders have given values.  In a strict engine the first text in
which a value is missing is an error. -/
def letterWith (disk : FileTree) (e : Template.Engine) (r : Request)
    (value? : String → Option String) : Except Fault Letter :=
  match (e.store.load disk r.template r.lang).result with
  | .error fault => .error (.template fault)
  | .ok text =>
    let body := Placeholder.renderWith value? text
    let line := Placeholder.renderWith value? (e.subjects.resolve r.template r.lang)
    if e.strict && !body.missing.isEmpty then .error (.template (.missingValues body.missing))
    else if e.strict && !line.missing.isEmpty then .error (.template (.missingValues line.missing))
    else .ok ⟨r.envelope, line.output, body.output, r.text⟩

/-- A letter is made from the effective values of its placeholders. -/
theorem letterFor_eq_letterWith (disk : FileTree) (e : Template.Engine) (r : Request) :
    letterFor disk e r = letterWith disk e r (effective? e.defaults r.values) := by
  unfold letterFor letterWith
  rw [Template.Engine.composeMail_result]
  unfold Template.Engine.renderReport Template.Engine.mailFrom Template.Engine.substitute
    Placeholder.render
  dsimp only
  cases (e.store.load disk r.template r.lang).result with
  | error fault => rfl
  | ok text =>
    dsimp only
    generalize Placeholder.renderWith _ text = body
    generalize Placeholder.renderWith _ (e.subjects.resolve r.template r.lang) = line
    cases e.strict && !body.missing.isEmpty with
    | true => rfl
    | false => cases e.strict && !line.missing.isEmpty <;> rfl

namespace Mailer

variable {σ : Type} {disk : FileTree} {m : Mailer σ}

/-- Composing changes the engine as one load does, whatever comes of it. -/
theorem compose_engine (disk : FileTree) (m : Mailer σ) (r : Request) :
    (m.compose disk r).state.engine = m.engine.loaded disk r.template r.lang := by
  cases h : letterFor disk m.engine r with
  | ok letter => rw [(compose_of_letter h).1]; rfl
  | error fault => rw [(compose_of_fault h).1]; rfl

/-- **The letters of a bulk send are made from the effective values of each recipient**, up to the
first that cannot be made. -/
theorem composeAll_letterWith (disk : FileTree) (m : Mailer σ) (b : BulkRequest)
    (recipients : List Recipient) :
    (m.composeAll disk (recipients.map b.mailFor)).result =
      recipients.mapM fun r =>
        letterWith disk m.engine (b.mailFor r)
          (effective? m.engine.defaults (b.values.merge r.values)) := by
  have hfor : ∀ e : Template.Engine, ∀ r, letterWith disk e (b.mailFor r)
      (effective? e.defaults (b.values.merge r.values)) = letterFor disk e (b.mailFor r) :=
    fun e r => (letterFor_eq_letterWith disk e (b.mailFor r)).symm
  simp only [hfor]
  induction recipients generalizing m with
  | nil => rfl
  | cons r rest ih =>
    have hresult := compose_result disk m (b.mailFor r)
    rw [List.map_cons, List.mapM_cons]
    cases hletter : letterFor disk m.engine (b.mailFor r) with
    | error fault =>
      rw [hletter] at hresult
      rw [composeAll_of_error hresult]
      rfl
    | ok letter =>
      rw [hletter] at hresult
      rw [composeAll_of_ok hresult]
      dsimp only
      -- the template is loaded now, and that changes no letter
      have hsame : (fun r' => letterFor disk (m.compose disk (b.mailFor r)).state.engine
          (b.mailFor r')) = fun r' => letterFor disk m.engine (b.mailFor r') := by
        funext r'
        rw [compose_engine]
        exact letterFor_loaded disk m.engine (b.mailFor r')
      rw [ih, hsame]
      cases rest.mapM fun r' => letterFor disk m.engine (b.mailFor r') <;> rfl

/-- Mails with the same effective values compose to the same, step by step. -/
theorem compose_congr {r : Request} {values : Variables}
    (h : effective? m.engine.defaults values = effective? m.engine.defaults r.values) :
    m.compose disk { r with values := values } = m.compose disk r := by
  unfold compose
  dsimp only
  rw [Template.Engine.composeMail_congr h]

/-- Requests with the same effective values compose to the same, one after the other. -/
theorem composeAll_congr {f g : Recipient → Request} {recipients : List Recipient}
    (h : ∀ r ∈ recipients, f r = { g r with values := (f r).values } ∧
      effective? m.engine.defaults (f r).values = effective? m.engine.defaults (g r).values) :
    m.composeAll disk (recipients.map f) = m.composeAll disk (recipients.map g) := by
  induction recipients generalizing m with
  | nil => rfl
  | cons r rest ih =>
    obtain ⟨hr, hrest⟩ := List.forall_mem_cons.mp h
    have hcompose : m.compose disk (f r) = m.compose disk (g r) := by
      rw [hr.1]
      exact compose_congr hr.2
    -- composing leaves the defaults as they are
    have hothers := ih (m := (m.compose disk (g r)).state) (by rw [compose_engine]; exact hrest)
    rw [List.map_cons, List.map_cons]
    unfold composeAll
    dsimp only
    rw [hcompose, hothers]

/-- **A bulk send depends on values only through what they are for the placeholders of each
recipient.** -/
theorem sendBulk_congr (disk : FileTree) (transport : Transport σ) (m : Mailer σ) (b : BulkRequest)
    (recipients : List Recipient) (shared : Variables) (own : Recipient → Variables)
    (h : ∀ r ∈ recipients, effective? m.engine.defaults (shared.merge (own r))
      = effective? m.engine.defaults (b.values.merge r.values)) :
    m.sendBulk disk transport { b with values := shared }
        (recipients.map fun r => { r with values := own r })
      = m.sendBulk disk transport b recipients := by
  have hall : m.composeAll disk
      ((recipients.map fun r => { r with values := own r }).map
        ({ b with values := shared } : BulkRequest).mailFor)
      = m.composeAll disk (recipients.map b.mailFor) := by
    rw [List.map_map]
    exact composeAll_congr fun r hr => ⟨rfl, h r hr⟩
  unfold sendBulk
  dsimp only
  rw [hall]

end Mailer

/-! ## §4. Nulls in a bulk send -/

/-- The bulk send without the shared values that are null. -/
def BulkRequest.withoutNulls (b : BulkRequest) : BulkRequest :=
  { b with values := Placeholder.withoutNulls b.values }

/-- The recipient without values that are null. -/
def Recipient.withoutNulls (r : Recipient) : Recipient :=
  { r with values := Placeholder.withoutNulls r.values }

/-- The defaults of a new engine are the configured ones over the built-in ones. -/
theorem get?_defaults_of_create {config : Settings.Templates} {year : String}
    {e : Template.Engine} (created : Template.Engine.create config year = .ok e) (key : String) :
    e.defaults.get? key
      = (config.defaults.get? key).or ((Template.builtinDefaults year).get? key) := by
  unfold Template.Engine.create at created
  split at created
  · cases created
  · obtain rfl := Except.ok.inj created
    exact Table.get?_merge _ _ key

/-- **What nulls do to a bulk send.**  The engine has the defaults that it was created with.

  * The letters are made from these values, up to the first recipient for whom that fails: a key of
    which a null hides a shared value has its default, which is the configured one or else the
    built-in one; every other key has the first value that is there and not null among the own
    values of the recipient, the shared values and the defaults.
  * Shared values that are null can always be left out: results, events and the mailer afterwards
    are the same.
  * All values that are null can be left out if none of them hides a shared value. -/
theorem sendBulk_nulls {σ : Type} (disk : FileTree) (transport : Transport σ) (m : Mailer σ)
    (b : BulkRequest) (recipients : List Recipient) {config : Settings.Templates} {year : String}
    {e : Template.Engine} (created : Template.Engine.create config year = .ok e)
    (kept : m.engine.defaults = e.defaults) :
    let default? := fun key =>
      (config.defaults.get? key).or ((Template.builtinDefaults year).get? key)
    let value? := fun (r : Recipient) key =>
      if hides r.values b.values key then default? key
      else (given? r.values key).or ((given? b.values key).or (default? key))
    (m.composeAll disk (recipients.map b.mailFor)).result
        = recipients.mapM (fun r => letterWith disk m.engine (b.mailFor r) (value? r)) ∧
      m.sendBulk disk transport b.withoutNulls recipients
        = m.sendBulk disk transport b recipients ∧
      ((∀ r ∈ recipients, ∀ key, hides r.values b.values key = false) →
        m.sendBulk disk transport b.withoutNulls (recipients.map Recipient.withoutNulls)
          = m.sendBulk disk transport b recipients) := by
  intro default? value?
  have hdefault : ∀ key, m.engine.defaults.get? key = default? key := by
    intro key
    rw [kept]
    exact get?_defaults_of_create created key
  refine ⟨?letters, ?shared, ?all⟩
  case letters =>
    have hvalue : ∀ r : Recipient, effective? m.engine.defaults (b.values.merge r.values)
        = value? r := by
      intro r
      funext key
      rw [Placeholder.effective?_merge, Placeholder.firstGiven?, hdefault]
    rw [Mailer.composeAll_letterWith]
    simp only [hvalue]
  case shared =>
    have hsame := Mailer.sendBulk_congr disk transport m b recipients
      (withoutNulls b.values) Recipient.values (by
        intro r hr
        funext key
        simp only [Placeholder.effective?_merge, Placeholder.firstGiven?,
          Placeholder.hides_withoutNulls_right, Placeholder.given?_withoutNulls])
    rw [List.map_id'' (fun r => rfl)] at hsame
    exact hsame
  case all =>
    intro hnone
    refine Mailer.sendBulk_congr disk transport m b recipients (withoutNulls b.values)
      (fun r => withoutNulls r.values) ?_
    intro r hr
    funext key
    simp only [Placeholder.effective?_merge, Placeholder.firstGiven?,
      Placeholder.hides_withoutNulls_left, Placeholder.given?_withoutNulls, hnone r hr key]

/-! ## §5. An invitation -/

/-- A mailer that calls everyone a guest who has no name. -/
def hosting : Mailer (List (Option DeliveryFault)) where
  engine :=
    { store := ((Template.Store.create "templates" "en").register "invite"
        "Dear \x7b\x7bNAME\x7d\x7d" "en").state
      subjects := .create "en"
      defaults := (Template.builtinDefaults "2025").merge (.ofList [("NAME", "guest")])
      strict := false }
  retry := {}
  link := []

/-- An invitation that calls everyone a friend, at no place in particular. -/
def invitation : BulkRequest where
  template := "invite"
  values := .ofList [("NAME", .text "friend"), ("PLACE", .null)]

/-- A recipient whose name is null, and one without values. -/
def invited : List Recipient := [⟨"ann", .ofList [("NAME", .null)]⟩, ⟨"bob", .empty⟩]

/-- The null of the shared values says nothing, and neither does that of a place of one's own; so
both can be left out. -/
theorem sendBulk_nulls_invitation :
    let transport := Transport.scripted ⟨[], "250 OK"⟩
    let travellers : List Recipient := [⟨"cid", .ofList [("PLACE", .null)]⟩]
    hosting.sendBulk .empty transport invitation.withoutNulls invited
        = hosting.sendBulk .empty transport invitation invited ∧
      (∀ r ∈ travellers, ∀ key, hides r.values invitation.values key = false) ∧
      hosting.sendBulk .empty transport invitation.withoutNulls
          (travellers.map Recipient.withoutNulls)
        = hosting.sendBulk .empty transport invitation travellers := by
  intro transport travellers
  have created : ∃ e, Template.Engine.create
      { root := "templates", defaults := .ofList [("NAME", "guest")] } "2025" = .ok e ∧
        hosting.engine.defaults = e.defaults := ⟨_, rfl, rfl⟩
  obtain ⟨e, created, kept⟩ := created
  have hnone : ∀ r ∈ travellers, ∀ key, hides r.values invitation.values key = false := by
    intro r hr key
    obtain rfl := List.mem_singleton.mp hr
    by_cases hkey : key = "PLACE"
    · subst hkey
      decide +kernel
    · have hother : key ∉ [("PLACE", Json.null)].map Prod.fst := by simpa using hkey
      have hfree : (Table.ofList [("PLACE", Json.null)]).get? key = none :=
        lookup_eq_none_of_not_mem hother
      show hides (Table.ofList [("PLACE", Json.null)]) invitation.values key = false
      rw [hides, hfree]
      rfl
  obtain ⟨-, hshared, -⟩ :=
    sendBulk_nulls .empty transport hosting invitation invited created kept
  obtain ⟨-, -, hall⟩ :=
    sendBulk_nulls .empty transport hosting invitation travellers created kept
  exact ⟨hshared, hnone, hall hnone⟩

/-- **A null hides a shared value.**  The recipient whose name is null is called a guest, the
default, and not a friend; without the null the recipient is a friend. -/
theorem null_hides_shared_value :
    let transport := Transport.scripted ⟨[], "250 OK"⟩
    let bodies := fun (recipients : List Recipient) =>
      (deliveries 0 (hosting.sendBulk .empty transport invitation recipients).events).map
        fun call => call.2.html
    bodies invited = ["Dear guest", "Dear friend"] ∧
      bodies (invited.map Recipient.withoutNulls) = ["Dear friend", "Dear friend"] := by
  decide +kernel

end Mail

end LocalizedMail

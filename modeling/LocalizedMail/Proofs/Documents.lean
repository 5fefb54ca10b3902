import LocalizedMail.Json.Reader

/-!
# Documents that were read are tidy

An object of a document may repeat a name, but the object that is read from it does not: its fields
are in order of their names, each name once, at every depth.  Whatever looks a field up by its name
may therefore take the first one that it finds for the only one.

What a step of the reader gives is described by a property that all its results have.

  * `Yields`: all results of a step have a property;
  * `tidy_ofFields`: an object that is put together field by field is tidy;
  * `tidy_of_read`: so is every document.
-/

namespace LocalizedMail.Json

/-! ## §1. Tidy values -/

/-- A value whose objects have their fields in order of the names, each name once. -/
inductive Tidy : Json → Prop
  | null : Tidy .null
  | bool (b : Bool) : Tidy (.bool b)
  | whole (n : Int) : Tidy (.whole n)
  | float (x : Binary64) : Tidy (.float x)
  | text (s : String) : Tidy (.text s)
  | list {items : List Json} (tidy : ∀ j ∈ items, Tidy j) : Tidy (.list items)
  | object {fields : List (String × Json)} (ordered : (fields.map Prod.fst).Pairwise (· < ·))
      (tidy : ∀ f ∈ fields, Tidy f.2) : Tidy (.object fields)

theorem mem_putField {name : String} {value : Json} {fields : List (String × Json)}
    {f : String × Json} (h : f ∈ putField name value fields) : f = (name, value) ∨ f ∈ fields := by
  induction fields with
  | nil => exact Or.inl (List.mem_singleton.mp h)
  | cons g rest ih =>
    unfold putField at h
    split at h
    · exact (List.mem_cons.mp h).imp_right (List.mem_cons_of_mem g)
    · split at h
      · exact List.mem_cons.mp h
      · rcases List.mem_cons.mp h with rfl | h
        · exact Or.inr List.mem_cons_self
        · exact (ih h).imp_right (List.mem_cons_of_mem g)

/-- A field that is put in keeps the order of the names. -/
theorem ordered_putField {name : String} {value : Json} {fields : List (String × Json)}
    (h : (fields.map Prod.fst).Pairwise (· < ·)) :
    ((putField name value fields).map Prod.fst).Pairwise (· < ·) := by
  induction fields with
  | nil => exact List.pairwise_singleton _ _
  | cons f rest ih =>
    obtain ⟨hfirst, hrest⟩ := List.pairwise_cons.mp h
    unfold putField
    split
    · next hname =>
      subst hname
      exact List.pairwise_cons.mpr ⟨hfirst, hrest⟩
    · next hname =>
      split
      · next hlt =>
        refine List.pairwise_cons.mpr ⟨fun other hother => ?_, h⟩
        rcases List.mem_cons.mp hother with rfl | hother
        · exact hlt
        · exact String.lt_trans hlt (hfirst other hother)
      · next hnlt =>
        refine List.pairwise_cons.mpr ⟨fun other hother => ?_, ih hrest⟩
        obtain ⟨g, hg, rfl⟩ := List.mem_map.mp hother
        rcases mem_putField hg with rfl | hg
        · refine String.not_le.mp fun hge => hname (String.le_antisymm ?_ (String.not_lt.mp hnlt))
          exact hge
        · exact hfirst g.1 (List.mem_map_of_mem hg)

/-- An object that is put together field by field is tidy. -/
theorem tidy_ofFields {fields : List (String × Json)} (h : ∀ f ∈ fields, Tidy f.2) :
    Tidy (ofFields fields) := by
  have hfold : ∀ fields : List (String × Json), (∀ f ∈ fields, Tidy f.2) →
      ∀ before : List (String × Json), (before.map Prod.fst).Pairwise (· < ·) →
        (∀ f ∈ before, Tidy f.2) →
        Tidy (.object (fields.foldl (fun acc f => putField f.1 f.2 acc) before)) := by
    intro fields
    induction fields with
    | nil => exact fun _ before hordered htidy => .object hordered htidy
    | cons f rest ih =>
      intro hfields before hordered htidy
      refine ih (fun g hg => hfields g (List.mem_cons_of_mem f hg)) _ (ordered_putField hordered) ?_
      intro g hg
      rcases mem_putField hg with rfl | hg
      · exact hfields f List.mem_cons_self
      · exact htidy g hg
  exact hfold fields h [] .nil nofun

/-! ## §2. What a step gives -/

/-- Whatever a step of the reader gives has a property. -/
def Yields {α : Type} (P : α → Prop) (r : Reader α) : Prop :=
  ∀ k a k', r k = .ok (a, k') → P a

section yields

variable {α β : Type} {P : α → Prop} {Q : β → Prop}

theorem yields_true (r : Reader α) : Yields (fun _ => True) r := fun _ _ _ _ => trivial

theorem yields_pure {a : α} (h : P a) : Yields P (pure a : Reader α) := by
  intro k b k' hb
  obtain ⟨rfl, -⟩ := Prod.mk.inj (Except.ok.inj hb)
  exact h

theorem yields_failHere (cause : Cause) : Yields P (failHere cause) := nofun

theorem yields_failNext (cause : Cause) : Yields P (failNext cause) := by
  intro k a k' h
  unfold failNext at h
  split at h <;> cases h

/-- A sequence of two steps gives what the second one gives after the first. -/
theorem yields_bind {r : Reader β} {f : β → Reader α} (hr : Yields Q r)
    (hf : ∀ b, Q b → Yields P (f b)) : Yields P (r >>= f) := by
  intro k a k' h
  change ((r k).bind fun p => f p.1 p.2) = .ok (a, k') at h
  cases hstep : r k with
  | error fault => rw [hstep] at h; cases h
  | ok p =>
    rw [hstep] at h
    exact hf p.1 (hr k p.1 p.2 hstep) p.2 a k' h

/-- A sequence of two steps of which the first one does not matter. -/
theorem yields_after (r : Reader β) {f : β → Reader α} (hf : ∀ b, Yields P (f b)) :
    Yields P (r >>= f) :=
  yields_bind (yields_true r) fun b _ => hf b

theorem yields_map {r : Reader β} {f : β → α} (hr : Yields Q r) (hf : ∀ b, Q b → P (f b)) :
    Yields P (f <$> r) := by
  rw [map_eq_pure_bind]
  exact yields_bind hr fun b hb => yields_pure (hf b hb)

end yields

/-! ## §3. Numbers, items and fields -/

theorem tidy_finishFloat (lenient negative : Bool) (s : Significand) :
    Yields Tidy (finishFloat lenient negative s) := by
  unfold finishFloat
  split
  · exact yields_pure (.float _)
  · split
    · exact yields_pure .null
    · exact yields_failHere _

theorem tidy_exponentPart (lenient negative : Bool) (s : Significand) :
    Yields Tidy (exponentPart lenient negative s) := by
  unfold exponentPart
  refine yields_after _ fun _ => yields_after _ fun sign? => ?_
  dsimp only
  split
  case' h_1 | h_2 => refine yields_after _ fun _ => ?_
  -- what follows the sign is the same with each sign and with none
  all_goals
    refine yields_after _ fun down => yields_after _ fun c? => ?_
    split
    · exact yields_failHere _
    · split
      · refine yields_after _ fun n => ?_
        split
        · exact yields_failHere _
        · exact yields_after _ fun _ => tidy_finishFloat _ _ _
      · exact yields_failNext _

theorem tidy_fractionPart (lenient negative : Bool) (s : Significand) :
    Yields Tidy (fractionPart lenient negative s) := by
  unfold fractionPart
  refine yields_after _ fun _ => yields_after _ fun ds => ?_
  split
  · refine yields_after _ fun c? => ?_
    split <;> exact yields_failNext _
  · refine yields_after _ fun c? => ?_
    split
    · exact tidy_exponentPart _ _ _
    · exact tidy_exponentPart _ _ _
    · exact tidy_finishFloat _ _ _

theorem tidy_finishWhole (lenient negative : Bool) (s : Significand) :
    Yields Tidy (finishWhole lenient negative s) := by
  unfold finishWhole
  split
  · exact tidy_finishFloat _ _ _
  · split
    · exact yields_pure (.whole _)
    · split
      · exact yields_pure (.whole _)
      · exact yields_pure (.float _)

theorem tidy_number (lenient : Bool) : Yields Tidy (number lenient) := by
  unfold number
  refine yields_after _ fun sign? => ?_
  dsimp only
  split
  case' h_1 => refine yields_after _ fun _ => ?_
  all_goals
    refine yields_after _ fun negative => yields_after _ fun c? => ?_
    split
    · exact yields_failHere _
    · split
      · exact yields_failNext _
      · refine yields_after _ fun _ => ?_
        split
        all_goals
          refine yields_after _ fun more => yields_after _ fun c? => ?_
          split
          · exact tidy_fractionPart _ _ _
          · exact tidy_exponentPart _ _ _
          · exact tidy_exponentPart _ _ _
          · split
            · exact yields_failNext _
            · exact tidy_finishWhole _ _ _
          · exact tidy_finishWhole _ _ _

/-- A list gives what its items give. -/
theorem yields_items {α : Type} {P : α → Prop} {item : Reader α} (h : Yields P item) (fuel : Nat)
    (first : Bool) : Yields (fun xs => ∀ x ∈ xs, P x) (items item fuel first) := by
  induction fuel generalizing first with
  | zero => exact yields_failNext _
  | succ fuel ih =>
    unfold items
    refine yields_after _ fun more => ?_
    split
    · exact yields_bind h fun x hx => yields_bind (ih false) fun xs hxs =>
        yields_pure (List.forall_mem_cons.mpr ⟨hx, hxs⟩)
    · exact yields_after _ fun _ => yields_pure nofun

/-- The fields of an object give what the values in it give. -/
theorem yields_fields {α : Type} {P : α → Prop} {item : Reader α} (h : Yields P item)
    (lenient : Bool) (fuel : Nat) (first : Bool) :
    Yields (fun fs => ∀ f ∈ fs, P f.2) (fields lenient item fuel first) := by
  induction fuel generalizing first with
  | zero => exact yields_failNext _
  | succ fuel ih =>
    unfold fields
    refine yields_after _ fun name? => ?_
    split
    · exact yields_after _ fun _ => yields_bind h fun x hx => yields_bind (ih false) fun xs hxs =>
        yields_pure (List.forall_mem_cons.mpr ⟨hx, hxs⟩)
    · exact yields_after _ fun _ => yields_pure nofun

/-! ## §4. Values and documents -/

/-- Every value that is read is tidy. -/
theorem tidy_value (lenient : Bool) (depth : Nat) : Yields Tidy (value lenient depth) := by
  unfold value
  refine yields_after _ fun c? => ?_
  split
  · exact yields_failNext _
  · exact yields_after _ fun _ => yields_after _ fun _ => yields_pure .null
  · exact yields_after _ fun _ => yields_after _ fun _ => yields_pure (.bool true)
  · exact yields_after _ fun _ => yields_after _ fun _ => yields_pure (.bool false)
  · exact yields_map (yields_true _) fun s _ => .text s
  · cases depth with
    | zero => exact yields_failNext _
    | succ depth =>
      refine yields_after _ fun _ => yields_after _ fun left => ?_
      exact yields_map (yields_items (tidy_value lenient depth) _ _) fun _ => .list
  · cases depth with
    | zero => exact yields_failNext _
    | succ depth =>
      refine yields_after _ fun _ => yields_after _ fun left => ?_
      exact yields_map (yields_fields (tidy_value lenient depth) _ _ _) fun _ => tidy_ofFields
  · split
    · exact tidy_number _
    · exact yields_failNext _

/-- A document gives what is read from it. -/
theorem of_document {α : Type} {P : α → Prop} {r : Reader α} (h : Yields P r) {text : String}
    {a : α} (hread : document r text = .ok a) : P a := by
  change Except.bind _ _ = _ at hread
  unfold Except.bind at hread
  split at hread
  · cases hread
  · next p hstep =>
    obtain rfl : p.1 = a := Except.ok.inj hread
    refine yields_bind h (fun b hb => yields_after peekPastGap? fun c? => ?_) _ _ _ hstep
    split
    · exact yields_pure hb
    · exact yields_failNext _

/-- **Every document that is read is tidy.** -/
theorem tidy_of_read {text : String} {j : Json} (h : read text = .ok j) : Tidy j :=
  of_document (tidy_value _ _) h

end LocalizedMail.Json

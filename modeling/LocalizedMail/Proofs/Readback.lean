import LocalizedMail.Proofs.Characters
import LocalizedMail.Smtp.Mailbox
import Mathlib.Data.List.DropRight

/-!
# Mailboxes that read back

A mailbox is written into a header and read from there again.  Its name may come back changed, but
its address does not, as long as the local part does not begin with a quote mark: such a local part
is a dotted atom, and so is every domain, and what stands around them in a header ends an atom.

A local part that does begin with a quote mark stands in the header as it is, and is then read as a
quoted text, without its marks.

  * `Dotted`: the dotted atoms, and what is read of them (`dottedAtom?_append`);
  * `phraseRest_append`, `quotedText?_escaped`: what is read of a name, and `read_headerName`: that
    a name in a header is read whole;
  * `Mailbox.Plain`: what the parser gives and no quote mark begins;
  * `Mailbox.Plain.reread`: a plain mailbox reads back with the same address.
-/

namespace LocalizedMail.Smtp

/-! ## §1. Characters -/

section characters

variable {c : Char}

/-- The blanks of all scripts, by their code points. -/
def blankPoints : List Nat :=
  [0x9, 0xA, 0xB, 0xC, 0xD, 0x20, 0x85, 0xA0, 0x1680, 0x2000, 0x2001, 0x2002, 0x2003, 0x2004, 0x2005,
    0x2006, 0x2007, 0x2008, 0x2009, 0x200A, 0x2028, 0x2029, 0x202F, 0x205F, 0x3000]

theorem mem_blankPoints (h : Text.isBlank c = true) : c.toNat ∈ blankPoints := by
  simp only [Text.isBlank, Bool.or_eq_true, Bool.and_eq_true, decide_eq_true_eq, beq_iff_eq] at h
  simp only [blankPoints, List.mem_cons, List.not_mem_nil, or_false]
  omega

/-- No character of an address is blank. -/
theorem not_isBlank_of_isAddressChar (h : isAddressChar c = true) : Text.isBlank c = false := by
  have htable : ∀ n ∈ blankPoints, isAddressChar (Char.ofNat n) = false := by decide +kernel
  by_contra hblank
  have hc := htable _ (mem_blankPoints (by simpa using hblank))
  rw [Char.ofNat_toNat, h] at hc
  cases hc

/-- Within ASCII, the letters and digits of all scripts are those of ASCII. -/
theorem isAlphanum_of_isAlphanumeric (hascii : c.toNat < 128)
    (h : Text.isAlphanumeric c = true) : c.isAlphanum = true := by
  have hbeyond : ∀ r ∈ Text.alphanumericRanges.drop 3, 128 ≤ r.1 := by decide +kernel
  obtain ⟨r, hr, hc⟩ := List.any_eq_true.mp h
  rw [← List.take_append_drop 3 Text.alphanumericRanges] at hr
  rcases List.mem_append.mp hr with hr | hr
  · have hcovered : Text.CharRange.covers (Text.alphanumericRanges.take 3) c = true :=
      List.any_eq_true.mpr ⟨r, hr, hc⟩
    exact Text.ascii_forall
      (P := fun c => Text.CharRange.covers (Text.alphanumericRanges.take 3) c = true →
        c.isAlphanum = true) (by decide +kernel) hascii hcovered
  · have hfirst := hbeyond r hr
    simp only [Text.CharRange.contains, Bool.and_eq_true, decide_eq_true_eq] at hc
    omega

/-- The characters of an address can stand in an atom. -/
theorem isAtomChar_of_isAddressChar (h : isAddressChar c = true) : isAtomChar c = true := by
  by_cases hascii : c.toNat < 128
  · unfold isAddressChar at h
    unfold isAtomChar
    rcases Bool.or_eq_true_iff.mp h with hletter | hmark
    · rw [isAlphanum_of_isAlphanumeric hascii hletter]
      rfl
    · rw [hmark, Bool.or_true]
  · simp only [isAtomChar, Bool.or_eq_true, decide_eq_true_eq]
    omega

/-- A character that can stand in a name. -/
def isNameChar (c : Char) : Bool := isEscapable c || 128 ≤ c.toNat

theorem isNameChar_of_isAtomChar (h : isAtomChar c = true) : isNameChar c = true := by
  by_cases hascii : c.toNat < 128
  · exact Text.ascii_forall (P := fun c => isAtomChar c = true → isNameChar c = true)
      (by decide +kernel) hascii h
  · simp only [isNameChar, Bool.or_eq_true, decide_eq_true_eq]
    omega

theorem eq_of_isLineBlank (h : isLineBlank c = true) : c = ' ' ∨ c = '\t' := by
  simpa [isLineBlank] using h

theorem isNameChar_of_isLineBlank (h : isLineBlank c = true) : isNameChar c = true := by
  rcases eq_of_isLineBlank h with rfl | rfl <;> decide

theorem isBlank_of_isLineBlank (h : isLineBlank c = true) : Text.isBlank c = true := by
  rcases eq_of_isLineBlank h with rfl | rfl <;> decide

/-- An atom has no blank. -/
theorem not_isLineBlank_of_isAtomChar (h : isAtomChar c = true) : isLineBlank c = false := by
  by_contra hblank
  rcases eq_of_isLineBlank (by simpa using hblank) with rfl | rfl
  · exact absurd h (by decide +kernel)
  · exact absurd h (by decide +kernel)

/-- A text that is not blank has a first character that is not, where its trimmed form begins. -/
theorem trim_solid {s : String} (h : Text.isAllBlank s = false) :
    ∃ c more, (Text.trim s).toList = c :: more ∧ Text.isBlank c = false ∧
      ∀ d ∈ c :: more, d ∈ s.toList := by
  have hend : ∀ cs, Text.trimEnd cs = cs.rdropWhile Text.isBlank := fun _ => rfl
  unfold Text.trim Text.trimChars
  rw [String.toList_ofList, hend]
  cases hleft : s.toList.dropWhile Text.isBlank with
  | nil =>
    rw [List.dropWhile_eq_nil_iff] at hleft
    unfold Text.isAllBlank at h
    rw [List.all_eq_true.mpr hleft] at h
    cases h
  | cons c rest =>
    have hc : Text.isBlank c = false := by
      have hnot := List.head?_dropWhile_not Text.isBlank s.toList
      rw [hleft] at hnot
      simpa using hnot
    have hprefix := List.rdropWhile_prefix Text.isBlank (l := c :: rest)
    cases htrim : (c :: rest).rdropWhile Text.isBlank with
    | nil =>
      have hall := List.rdropWhile_eq_nil_iff.mp htrim c List.mem_cons_self
      rw [hc] at hall
      cases hall
    | cons e more =>
      rw [htrim] at hprefix
      obtain rfl : e = c := (List.cons_prefix_cons.mp hprefix).1
      refine ⟨e, more, rfl, hc, fun d hd => ?_⟩
      exact (List.dropWhile_suffix Text.isBlank).subset (hleft ▸ hprefix.subset hd)

/-- No atom begins with a given character that is none of an atom's. -/
theorem ne_of_isAtomChar {d : Char} (h : isAtomChar c = true) (hd : isAtomChar d = false) :
    c ≠ d := by
  rintro rfl
  rw [h] at hd
  cases hd

end characters

/-! ## §2. Dotted atoms -/

/-- A text that an atom cannot go on with: it begins with no atom character and no dot. -/
def EndsAtom (t : List Char) : Prop := ∀ c ∈ t.head?, isAtomChar c = false ∧ c ≠ '.'

/-- Atoms with dots between them. -/
inductive Dotted : List Char → Prop
  | atom {a : List Char} (some : a ≠ []) (all : ∀ c ∈ a, isAtomChar c = true) : Dotted a
  | dot {a rest : List Char} (some : a ≠ []) (all : ∀ c ∈ a, isAtomChar c = true)
      (more : Dotted rest) : Dotted (a ++ '.' :: rest)

section dotted

/-- An atom is read up to the first character that is none of its own. -/
theorem atomRun?_append {a t : List Char} (hsome : a ≠ []) (hall : ∀ c ∈ a, isAtomChar c = true)
    (ht : ∀ c ∈ t.head?, isAtomChar c = false) : atomRun? (a ++ t) = some (a, t) := by
  have htake : (a ++ t).takeWhile isAtomChar = a := by
    rw [List.takeWhile_append_of_pos hall]
    cases t with
    | nil => simp
    | cons c t => rw [List.takeWhile_cons_of_neg (by simp [ht c rfl]), List.append_nil]
  have hdrop : (a ++ t).dropWhile isAtomChar = t := by
    rw [List.dropWhile_append_of_pos hall]
    cases t with
    | nil => rfl
    | cons c t => exact List.dropWhile_cons_of_neg (by simp [ht c rfl])
  unfold atomRun?
  dsimp only
  rw [htake, hdrop, if_neg (by simpa using hsome)]

theorem Dotted.head {X : List Char} (h : Dotted X) :
    ∃ c rest, X = c :: rest ∧ isAtomChar c = true := by
  cases h with
  | atom hsome hall =>
    obtain ⟨c, rest, rfl⟩ := List.exists_cons_of_ne_nil hsome
    exact ⟨c, rest, rfl, hall c List.mem_cons_self⟩
  | dot hsome hall _ =>
    obtain ⟨c, rest, rfl⟩ := List.exists_cons_of_ne_nil hsome
    exact ⟨c, _, rfl, hall c List.mem_cons_self⟩

/-- No character of a dotted atom is anything but a dot or an atom's. -/
theorem Dotted.mem {X : List Char} (h : Dotted X) : ∀ c ∈ X, isAtomChar c = true ∨ c = '.' := by
  induction h with
  | atom _ hall => exact fun c hc => Or.inl (hall c hc)
  | dot _ hall _ ih =>
    intro c hc
    rcases List.mem_append.mp hc with hc | hc
    · exact Or.inl (hall c hc)
    · rcases List.mem_cons.mp hc with rfl | hc
      · exact Or.inr rfl
      · exact ih c hc

theorem dottedRuns_of_endsAtom {t : List Char} (h : EndsAtom t) : dottedRuns t = ([], t) := by
  unfold dottedRuns
  split
  · exact absurd rfl (h '.' rfl).2
  · rfl

theorem dottedRuns_dot {a rest tail : List Char} (h : atomRun? tail = some (a, rest)) :
    dottedRuns ('.' :: tail) = ('.' :: a ++ (dottedRuns rest).1, (dottedRuns rest).2) := by
  rw [dottedRuns]
  split
  · next a' rest' h' =>
    rw [h] at h'
    obtain ⟨rfl, rfl⟩ := Prod.mk.inj (Option.some.inj h')
    rfl
  · next h' =>
    rw [h] at h'
    cases h'

/-- The atoms of a dotted atom are read one after the other. -/
theorem Dotted.read {X t : List Char} (h : Dotted X) (ht : EndsAtom t) :
    ∃ a tail, atomRun? (X ++ t) = some (a, tail) ∧ a ++ (dottedRuns tail).1 = X ∧
      (dottedRuns tail).2 = t := by
  induction h with
  | atom hsome hall =>
    refine ⟨_, t, atomRun?_append hsome hall fun c hc => (ht c hc).1, ?_, ?_⟩
    · rw [dottedRuns_of_endsAtom ht, List.append_nil]
    · rw [dottedRuns_of_endsAtom ht]
  | @dot a rest hsome hall _ ih =>
    obtain ⟨b, tail, hread, hparts, hend⟩ := ih
    have hfirst : atomRun? (a ++ '.' :: rest ++ t) = some (a, '.' :: (rest ++ t)) := by
      rw [List.append_assoc, List.cons_append]
      refine atomRun?_append hsome hall fun c hc => ?_
      obtain rfl : '.' = c := by simpa using hc
      decide +kernel
    refine ⟨a, _, hfirst, ?_, ?_⟩
    · rw [dottedRuns_dot hread, List.cons_append, hparts]
    · rw [dottedRuns_dot hread, hend]

/-- **A dotted atom is read as it stands**, up to what ends it. -/
theorem dottedAtom?_append {X t : List Char} (h : Dotted X) (ht : EndsAtom t) :
    dottedAtom? (X ++ t) = some (X, t) := by
  obtain ⟨c, rest, hX, hc⟩ := h.head
  obtain ⟨a, tail, hread, hparts, hend⟩ := h.read ht
  have hskip : (X ++ t).dropWhile isLineBlank = X ++ t := by
    rw [hX, List.cons_append]
    exact List.dropWhile_cons_of_neg (by simp [not_isLineBlank_of_isAtomChar hc])
  unfold dottedAtom?
  rw [hskip, hread]
  dsimp only
  rw [hparts, hend]

/-- Labels of atom characters make a dotted atom. -/
theorem dotted_of_labels {cs : List Char}
    (h : ∀ l ∈ labels cs, l ≠ [] ∧ ∀ c ∈ l, isAtomChar c = true) : Dotted cs := by
  -- the labels are taken as any parts that a dot joins, for the induction on them
  have hjoin : ∀ ls : List (List Char), ls ≠ [] →
      (∀ l ∈ ls, l ≠ [] ∧ ∀ c ∈ l, isAtomChar c = true) → Dotted (['.'].intercalate ls) := by
    intro ls
    induction ls with
    | nil => exact fun hsome => absurd rfl hsome
    | cons l rest ih =>
      intro _ hall
      obtain ⟨hfirst, hrest⟩ := List.forall_mem_cons.mp hall
      cases rest with
      | nil => simpa using Dotted.atom hfirst.1 hfirst.2
      | cons l' rest =>
        have hmore := Dotted.dot hfirst.1 hfirst.2 (ih (List.cons_ne_nil _ _) hrest)
        simpa [List.intercalate_cons_cons] using hmore
  have hcs := hjoin (labels cs) (List.splitOn_ne_nil '.' cs) h
  rwa [labels, List.intercalate_splitOn] at hcs

/-- What is read as an atom is one. -/
theorem atom_of_atomRun? {cs a rest : List Char} (h : atomRun? cs = some (a, rest)) :
    a ≠ [] ∧ ∀ c ∈ a, isAtomChar c = true := by
  unfold atomRun? at h
  dsimp only at h
  split at h
  · cases h
  · next hsome =>
    obtain ⟨rfl, -⟩ := Prod.mk.inj (Option.some.inj h)
    exact ⟨by simpa using hsome, fun c hc => List.mem_takeWhile_imp hc⟩

/-- What is read after an atom makes it a dotted atom. -/
theorem dotted_append_dottedRuns (cs : List Char) : ∀ a : List Char, a ≠ [] →
    (∀ c ∈ a, isAtomChar c = true) → Dotted (a ++ (dottedRuns cs).1) := by
  fun_induction dottedRuns cs with
  | case1 tail b rest h more ih =>
    intro a hsome hall
    obtain ⟨hb, hball⟩ := atom_of_atomRun? h
    exact Dotted.dot hsome hall (ih b hb hball)
  | case2 tail h =>
    intro a hsome hall
    rw [List.append_nil]
    exact Dotted.atom hsome hall
  | case3 cs h =>
    intro a hsome hall
    rw [List.append_nil]
    exact Dotted.atom hsome hall

/-- What is read as a dotted atom is one. -/
theorem dotted_of_dottedAtom? {cs X rest : List Char} (h : dottedAtom? cs = some (X, rest)) :
    Dotted X := by
  unfold dottedAtom? at h
  split at h
  · next a tail hread =>
    obtain ⟨rfl, -⟩ := Prod.mk.inj (Option.some.inj h)
    obtain ⟨hsome, hall⟩ := atom_of_atomRun? hread
    exact dotted_append_dottedRuns tail a hsome hall
  · cases h

end dotted

/-! ## §3. Names without quote marks -/

/-- A character of a name that no quote mark stands around. -/
def isPhraseChar (c : Char) : Bool := isAtomChar c || c == '.' || isLineBlank c

/-- A text that a name cannot go on with. -/
def EndsPhrase (t : List Char) : Prop := ∀ c ∈ t.head?, isPhraseChar c = false ∧ c ≠ '"'

section phrase

theorem quotedText?_of_ne {c : Char} (h : c ≠ '"') (t : List Char) :
    quotedText? (c :: t) = none := by
  unfold quotedText?
  split
  · next heq => exact absurd (List.cons.inj heq).1 h
  · rfl

theorem phraseRest_of_some {cs w rest : List Char} (h : phrasePart? cs = some (w, rest)) :
    phraseRest cs = (w ++ (phraseRest rest).1, (phraseRest rest).2) := by
  rw [phraseRest]
  split
  · next w' rest' h' =>
    rw [h] at h'
    obtain ⟨rfl, rfl⟩ := Prod.mk.inj (Option.some.inj h')
    rfl
  · next h' =>
    rw [h] at h'
    cases h'

theorem phraseRest_of_none {cs : List Char} (h : phrasePart? cs = none) :
    phraseRest cs = ([], cs) := by
  rw [phraseRest]
  split
  · next h' =>
    rw [h] at h'
    cases h'
  · rfl

theorem atomRun?_of_not_isAtomChar {c : Char} (h : isAtomChar c = false) (t : List Char) :
    atomRun? (c :: t) = none := by
  unfold atomRun?
  simp [h]

theorem phrasePart?_of_endsPhrase {t : List Char} (h : EndsPhrase t) : phrasePart? t = none := by
  cases t with
  | nil => rfl
  | cons c t =>
    obtain ⟨hphrase, hquote⟩ := h c rfl
    simp only [isPhraseChar, Bool.or_eq_false_iff, beq_eq_false_iff_ne] at hphrase
    obtain ⟨⟨hatom, hdot⟩, hblank⟩ := hphrase
    unfold phrasePart? word?
    rw [quotedText?_of_ne hquote, atomRun?_of_not_isAtomChar hatom]
    simp [hdot, hblank]

/-- A word that begins with an atom character is the atom there. -/
theorem word?_append {P t : List Char} {c : Char} (hhead : P.head? = some c)
    (hc : isAtomChar c = true) (ht : EndsPhrase t) :
    word? (P ++ t) = some (P.takeWhile isAtomChar, P.dropWhile isAtomChar ++ t) := by
  obtain ⟨rest, rfl⟩ : ∃ rest, P = c :: rest := by
    cases P with
    | nil => cases hhead
    | cons d rest => exact ⟨rest, by rw [Option.some.inj hhead]⟩
  have hsome : (c :: rest).takeWhile isAtomChar ≠ [] := by
    rw [List.takeWhile_cons_of_pos hc]
    exact List.cons_ne_nil _ _
  have hend : ∀ d ∈ ((c :: rest).dropWhile isAtomChar ++ t).head?, isAtomChar d = false := by
    intro d hd
    cases hdrop : (c :: rest).dropWhile isAtomChar with
    | nil =>
      rw [hdrop, List.nil_append] at hd
      have hphrase := (ht d hd).1
      simp only [isPhraseChar, Bool.or_eq_false_iff] at hphrase
      exact hphrase.1.1
    | cons e more =>
      rw [hdrop] at hd
      obtain rfl : e = d := Option.some.inj hd
      have hfirst := List.head?_dropWhile_not isAtomChar (c :: rest)
      rw [hdrop] at hfirst
      simpa using hfirst
  have hquote : c ≠ '"' := ne_of_isAtomChar hc (by decide +kernel)
  have hrun := atomRun?_append hsome (fun d hd => List.mem_takeWhile_imp hd) hend
  rw [← List.append_assoc, List.takeWhile_append_dropWhile] at hrun
  unfold word?
  rw [List.cons_append, quotedText?_of_ne hquote, ← List.cons_append]
  exact hrun

/-- What follows the first word of a name is read up to the first character that cannot belong to
it. -/
theorem phraseRest_append {P t : List Char} (hP : ∀ c ∈ P, isPhraseChar c = true)
    (ht : EndsPhrase t) : (phraseRest (P ++ t)).2 = t := by
  -- on the length of the name, since a part of it can be an atom of any length
  induction hn : P.length using Nat.strong_induction_on generalizing P with
  | _ n ih =>
    cases P with
    | nil => rw [List.nil_append, phraseRest_of_none (phrasePart?_of_endsPhrase ht)]
    | cons c rest =>
      obtain ⟨hc, hrest⟩ := List.forall_mem_cons.mp hP
      cases hatom : isAtomChar c with
      | true =>
        -- a whole atom is read at once
        have hpart : phrasePart? (c :: rest ++ t)
            = some ((c :: rest).takeWhile isAtomChar, (c :: rest).dropWhile isAtomChar ++ t) := by
          unfold phrasePart?
          rw [word?_append rfl hatom ht]
        have hshorter : ((c :: rest).dropWhile isAtomChar).length < n := by
          rw [List.dropWhile_cons_of_pos hatom, ← hn]
          exact Nat.lt_succ_of_le (Text.length_skip_le _ _)
        rw [phraseRest_of_some hpart]
        exact ih _ hshorter (fun d hd => hP d (List.dropWhile_suffix _ |>.subset hd)) rfl
      | false =>
        have hskip : (c == '.' || isLineBlank c) = true := by
          simpa only [isPhraseChar, hatom, Bool.false_or] using hc
        have hquote : c ≠ '"' := by
          rintro rfl
          exact absurd hskip (by decide)
        have hpart : phrasePart? (c :: rest ++ t) = some ([c], rest ++ t) := by
          unfold phrasePart? word?
          rw [List.cons_append, quotedText?_of_ne hquote, atomRun?_of_not_isAtomChar hatom]
          exact if_pos (by simpa using hskip)
        have hshorter : rest.length < n := by
          rw [← hn]
          exact Nat.lt_succ_self _
        rw [phraseRest_of_some hpart]
        exact ih _ hshorter hrest rfl

/-- A name without quote marks is read up to what cannot belong to it. -/
theorem phrase?_append {P t : List Char} {c : Char} (hhead : P.head? = some c)
    (hc : isAtomChar c = true) (hP : ∀ c ∈ P, isPhraseChar c = true) (ht : EndsPhrase t) :
    ∃ name, phrase? (P ++ t) = some (name, t) := by
  unfold phrase?
  rw [word?_append hhead hc ht]
  dsimp only
  rw [phraseRest_append (fun d hd => hP d (List.dropWhile_suffix _ |>.subset hd)) ht]
  exact ⟨_, rfl⟩

end phrase

/-! ## §4. Names between quote marks -/

/-- A text with a backslash before every quote mark and every backslash. -/
def escaped (cs : List Char) : List Char :=
  cs.flatMap fun c => if c == '"' || c == '\\' then ['\\', c] else [c]

section quoted

theorem escaped_cons (c : Char) (cs : List Char) :
    escaped (c :: cs) = (if c == '"' || c == '\\' then ['\\', c] else [c]) ++ escaped cs :=
  List.flatMap_cons

theorem escaped_cons_of_isLineBlank {c : Char} (h : isLineBlank c = true) (cs : List Char) :
    escaped (c :: cs) = c :: escaped cs := by
  rw [escaped_cons]
  rcases eq_of_isLineBlank h with rfl | rfl <;> rfl

/-- A character of a name is read as one character of a quoted text, which is no blank. -/
theorem read_escaped {c : Char} (hname : isNameChar c = true) (hblank : isLineBlank c = false)
    (cs t : List Char) :
    ∃ d, isLineBlank d = false ∧ (∃ more, escaped (c :: cs) ++ t = d :: more) ∧
      quotedChar? (escaped (c :: cs) ++ t) = some (c, escaped cs ++ t) := by
  rw [escaped_cons]
  by_cases hmark : (c == '"' || c == '\\') = true
  · rw [if_pos hmark]
    refine ⟨'\\', by decide, ⟨_, rfl⟩, ?_⟩
    have hescapable : isEscapable c = true := by
      simp only [Bool.or_eq_true, beq_iff_eq] at hmark
      rcases hmark with rfl | rfl <;> decide
    have hslash : isQuotable '\\' = false := by decide
    simp [quotedChar?, hslash, hescapable]
  · rw [if_neg hmark]
    refine ⟨c, hblank, ⟨_, rfl⟩, ?_⟩
    have hquotable : isQuotable c = true := by
      simp only [Bool.or_eq_true, beq_iff_eq, not_or] at hmark
      simp only [isNameChar, Bool.or_eq_true] at hname
      simp only [isQuotable, Bool.or_eq_true, Bool.and_eq_true, Bool.not_eq_true', bne_iff_ne]
      exact hname.imp (fun h => ⟨⟨⟨h, hblank⟩, hmark.1⟩, hmark.2⟩) id
    simp [quotedChar?, hquotable]

theorem gap_of_not_isLineBlank {c : Char} (h : isLineBlank c = false) (t : List Char) :
    gap (c :: t) = ([], c :: t) := by
  simp [gap, h]

theorem gap_of_isLineBlank {c : Char} (h : isLineBlank c = true) (t : List Char) :
    gap (c :: t) = ([c], t.dropWhile isLineBlank) := by
  simp [gap, h]

theorem quotedBody_of_some {cs rest : List Char} {c : Char}
    (h : quotedChar? (gap cs).2 = some (c, rest)) :
    quotedBody cs = ((gap cs).1 ++ c :: (quotedBody rest).1, (quotedBody rest).2) := by
  rw [quotedBody]
  split
  · next c' rest' h' =>
    rw [h] at h'
    obtain ⟨rfl, rfl⟩ := Prod.mk.inj (Option.some.inj h')
    rfl
  · next h' =>
    rw [h] at h'
    cases h'

theorem quotedBody_of_none {cs : List Char} (h : quotedChar? (gap cs).2 = none) :
    quotedBody cs = ([], cs) := by
  rw [quotedBody]
  split
  · next h' =>
    rw [h] at h'
    cases h'
  · rfl

theorem quotedChar?_quote (t : List Char) : quotedChar? ('"' :: t) = none := by
  have hquote : isQuotable '"' = false := by decide
  simp [quotedChar?, hquote]

/-- The blanks before an escaped text are its own. -/
theorem dropWhile_escaped (cs t : List Char) (h : ∀ c ∈ cs, isNameChar c = true) :
    (escaped cs ++ '"' :: t).dropWhile isLineBlank
      = escaped (cs.dropWhile isLineBlank) ++ '"' :: t := by
  induction cs with
  | nil => rfl
  | cons c rest ih =>
    obtain ⟨hc, hrest⟩ := List.forall_mem_cons.mp h
    cases hblank : isLineBlank c with
    | true =>
      rw [escaped_cons_of_isLineBlank hblank, List.cons_append,
        List.dropWhile_cons_of_pos hblank, List.dropWhile_cons_of_pos hblank, ih hrest]
    | false =>
      obtain ⟨d, hd, ⟨more, hmore⟩, -⟩ := read_escaped hc hblank rest ('"' :: t)
      rw [List.dropWhile_cons_of_neg (by simp [hblank]), hmore,
        List.dropWhile_cons_of_neg (by simp [hd])]

/-- An escaped text is read up to the quote mark after it, blanks at its end apart. -/
theorem quotedBody_escaped (cs t : List Char) (h : ∀ c ∈ cs, isNameChar c = true) :
    (quotedBody (escaped cs ++ '"' :: t)).2.dropWhile isLineBlank = '"' :: t := by
  have hquote : ('"' :: t).dropWhile isLineBlank = '"' :: t :=
    List.dropWhile_cons_of_neg (by decide)
  -- on the length of the text, since a character is read together with all blanks before it
  induction hn : cs.length using Nat.strong_induction_on generalizing cs with
  | _ n ih =>
    cases cs with
    | nil =>
      rw [escaped, List.flatMap_nil, List.nil_append, quotedBody_of_none]
      · exact hquote
      · rw [gap_of_not_isLineBlank (by decide)]
        exact quotedChar?_quote t
    | cons c rest =>
      obtain ⟨hc, hrest⟩ := List.forall_mem_cons.mp h
      cases hblank : isLineBlank c with
      | false =>
        obtain ⟨d, hd, ⟨more, hmore⟩, hread⟩ := read_escaped hc hblank rest ('"' :: t)
        rw [hmore] at hread ⊢
        rw [quotedBody_of_some (by rw [gap_of_not_isLineBlank hd]; exact hread)]
        exact ih rest.length (by rw [← hn]; exact Nat.lt_succ_self _) rest hrest rfl
      | true =>
        -- the next character that counts is the first that is no blank
        rw [escaped_cons_of_isLineBlank hblank, List.cons_append]
        have hgap : (gap (c :: (escaped rest ++ '"' :: t))).2
            = escaped (rest.dropWhile isLineBlank) ++ '"' :: t := by
          rw [gap_of_isLineBlank hblank]
          exact dropWhile_escaped rest t hrest
        cases hleft : rest.dropWhile isLineBlank with
        | nil =>
          rw [quotedBody_of_none (by rw [hgap, hleft]; exact quotedChar?_quote t),
            List.dropWhile_cons_of_pos hblank, dropWhile_escaped rest t hrest, hleft]
          rfl
        | cons e more =>
          have hall : ∀ d ∈ e :: more, isNameChar d = true := fun d hd =>
            hrest d ((List.dropWhile_suffix _).subset (hleft ▸ hd))
          obtain ⟨he, hmore⟩ := List.forall_mem_cons.mp hall
          have hfirst : isLineBlank e = false := by
            have hnot := List.head?_dropWhile_not isLineBlank rest
            rw [hleft] at hnot
            simpa using hnot
          obtain ⟨-, -, -, hread⟩ := read_escaped he hfirst more ('"' :: t)
          have hshorter : more.length < n := by
            have hlen := Text.length_skip_le isLineBlank rest
            rw [hleft, List.length_cons] at hlen
            rw [← hn, List.length_cons]
            omega
          rw [quotedBody_of_some (by rw [hgap, hleft]; exact hread)]
          exact ih more.length hshorter more hmore rfl

/-- A name between quote marks is read whole. -/
theorem quotedText?_escaped (cs t : List Char) (h : ∀ c ∈ cs, isNameChar c = true) :
    ∃ content, quotedText? ('"' :: (escaped cs ++ '"' :: t)) = some (content, t) := by
  have hbody := quotedBody_escaped cs t h
  simp only [quotedText?, hbody]
  exact ⟨_, rfl⟩

/-- **A name in a header is read whole**, with or without quote marks around it, up to the blank
and the text that follow. -/
theorem read_headerName {name : String} (hblank : Text.isAllBlank name = false)
    (hname : ∀ c ∈ name.toList, isNameChar c = true) {t : List Char} (ht : EndsPhrase t) :
    ∃ (d : Char) (cs : List Char), (headerName (Text.trim name)).toList = d :: cs ∧
      Text.isBlank d = false ∧ ∃ read, phrase? (d :: cs ++ ' ' :: t) = some (read, t) := by
  obtain ⟨c, more, htrim, hc, hsub⟩ := trim_solid hblank
  have hchars : ∀ d ∈ c :: more, isNameChar d = true := fun d hd => hname d (hsub d hd)
  have hgap : ∀ d ∈ [' '], isPhraseChar d = true :=
    List.forall_mem_singleton.mpr (by decide +kernel)
  unfold headerName
  split
  · -- the name stands as it is
    next hplain =>
    rw [htrim] at hplain ⊢
    simp only [isPlainName, List.all_eq_true, Bool.or_eq_true] at hplain
    have hatom : isAtomChar c = true := by
      refine (hplain c List.mem_cons_self).resolve_right fun hblank => ?_
      rw [isBlank_of_isLineBlank hblank] at hc
      cases hc
    have hall : ∀ d ∈ c :: more ++ [' '], isPhraseChar d = true := by
      intro d hd
      rcases List.mem_append.mp hd with hd | hd
      · simp only [isPhraseChar, Bool.or_eq_true]
        exact (hplain d hd).imp Or.inl id
      · exact hgap d hd
    obtain ⟨read, hphrase⟩ := phrase?_append (P := c :: more ++ [' ']) rfl hatom hall ht
    rw [List.append_assoc] at hphrase
    exact ⟨c, more, rfl, hc, read, hphrase⟩
  · -- the name stands between quote marks
    rw [htrim, String.toList_ofList]
    refine ⟨'"', _, rfl, by decide, ?_⟩
    obtain ⟨content, hquoted⟩ := quotedText?_escaped (c :: more) (' ' :: t) hchars
    have hrest := phraseRest_append hgap ht
    have hjoin : ∀ u, '"' :: (escaped (c :: more) ++ ['"']) ++ u
        = '"' :: (escaped (c :: more) ++ '"' :: u) := by simp
    show ∃ read, phrase? ('"' :: (escaped (c :: more) ++ ['"']) ++ _) = _
    rw [hjoin]
    unfold phrase? word?
    rw [hquoted]
    dsimp only
    rw [show ∀ u : List Char, ' ' :: u = [' '] ++ u from fun _ => rfl, hrest]
    exact ⟨_, rfl⟩

end quoted

/-! ## §5. The characters of a name -/

section content

theorem isLineBlank_of_mem_gap {cs : List Char} : ∀ c ∈ (gap cs).1, isLineBlank c = true := by
  unfold gap
  split
  · split
    · next h => simpa using h
    · simp
  · simp

theorem isNameChar_of_quotedChar? {cs rest : List Char} {c : Char}
    (h : quotedChar? cs = some (c, rest)) : isNameChar c = true := by
  unfold quotedChar? at h
  split at h
  · cases h
  · split at h
    · next d _ hquotable =>
      obtain ⟨rfl, -⟩ := Prod.mk.inj (Option.some.inj h)
      simp only [isQuotable, Bool.or_eq_true, Bool.and_eq_true] at hquotable
      simp only [isNameChar, Bool.or_eq_true]
      exact hquotable.imp (fun h => h.1.1.1) id
    · split at h
      · split at h
        · next hescapable =>
          obtain ⟨rfl, -⟩ := Prod.mk.inj (Option.some.inj h)
          simp only [isNameChar, hescapable, Bool.true_or]
        · cases h
      · cases h

theorem isNameChar_of_mem_quotedBody (cs : List Char) :
    ∀ c ∈ (quotedBody cs).1, isNameChar c = true := by
  fun_induction quotedBody cs with
  | case1 cs d rest h more ih =>
    intro c hc
    rcases List.mem_append.mp hc with hc | hc
    · exact isNameChar_of_isLineBlank (isLineBlank_of_mem_gap c hc)
    · rcases List.mem_cons.mp hc with rfl | hc
      · exact isNameChar_of_quotedChar? h
      · exact ih c hc
  | case2 cs h => simp

theorem isNameChar_of_mem_word? {cs w rest : List Char} (h : word? cs = some (w, rest)) :
    ∀ c ∈ w, isNameChar c = true := by
  unfold word? at h
  split at h
  · next r hr =>
    obtain rfl := Option.some.inj h
    unfold quotedText? at hr
    split at hr
    · split at hr
      · obtain ⟨rfl, -⟩ := Prod.mk.inj (Option.some.inj hr)
        exact isNameChar_of_mem_quotedBody _
      · cases hr
    · cases hr
  · exact fun c hc => isNameChar_of_isAtomChar ((atom_of_atomRun? h).2 c hc)

theorem isNameChar_of_mem_phraseRest (cs : List Char) :
    ∀ c ∈ (phraseRest cs).1, isNameChar c = true := by
  fun_induction phraseRest cs with
  | case1 cs w rest h more ih =>
    intro c hc
    rcases List.mem_append.mp hc with hc | hc
    · unfold phrasePart? at h
      split at h
      · next r hr =>
        obtain rfl := Option.some.inj h
        exact isNameChar_of_mem_word? hr c hc
      · split at h
        · split at h
          · next hskip =>
            obtain ⟨rfl, -⟩ := Prod.mk.inj (Option.some.inj h)
            obtain rfl := List.mem_singleton.mp hc
            rcases Bool.or_eq_true _ _ ▸ hskip with hdot | hblank
            · rw [of_decide_eq_true hdot]
              decide
            · exact isNameChar_of_isLineBlank hblank
          · cases h
        · cases h
    · exact ih c hc
  | case2 cs h => simp

/-- A name that is read has only characters that can be written into a header. -/
theorem isNameChar_of_mem_phrase? {cs name rest : List Char} (h : phrase? cs = some (name, rest)) :
    ∀ c ∈ name, isNameChar c = true := by
  unfold phrase? at h
  split at h
  · next w tail hword =>
    obtain ⟨rfl, -⟩ := Prod.mk.inj (Option.some.inj h)
    intro c hc
    rcases List.mem_append.mp hc with hc | hc
    · exact isNameChar_of_mem_word? hword c hc
    · exact isNameChar_of_mem_phraseRest tail c hc
  · cases h

end content

/-! ## §6. Addresses -/

section address

variable {l d : List Char}

theorem endsAtom_cons {c : Char} (hatom : isAtomChar c = false) (hdot : c ≠ '.') (t : List Char) :
    EndsAtom (c :: t) := by
  intro e he
  obtain rfl : c = e := Option.some.inj he
  exact ⟨hatom, hdot⟩

theorem endsPhrase_cons {c : Char} (hphrase : isPhraseChar c = false) (hquote : c ≠ '"')
    (t : List Char) : EndsPhrase (c :: t) := by
  intro e he
  obtain rfl : c = e := Option.some.inj he
  exact ⟨hphrase, hquote⟩

/-- An address of two dotted atoms is read as it stands. -/
theorem address?_append {t : List Char} (hl : Dotted l) (hd : Dotted d) (ht : EndsAtom t) :
    address? (l ++ '@' :: (d ++ t)) = some ((l, d), t) := by
  have hlocal : localPart? (l ++ '@' :: (d ++ t)) = some (l, '@' :: (d ++ t)) := by
    unfold localPart?
    rw [dottedAtom?_append hl (endsAtom_cons (by decide +kernel) (by decide) _)]
    rfl
  unfold address?
  rw [hlocal]
  show (dottedAtom? (d ++ t)).map (fun d => ((l, d.1), d.2)) = _
  rw [dottedAtom?_append hd ht]
  rfl

/-- Angle brackets around an address are read with it. -/
theorem angleAddress?_append (hl : Dotted l) (hd : Dotted d) :
    angleAddress? ('<' :: (l ++ '@' :: (d ++ ['>']))) = some ((l, d), []) := by
  have hread := address?_append hl hd (endsAtom_cons (c := '>') (by decide +kernel) (by decide) [])
  simp only [angleAddress?, hread]

/-- The domain of an address that is read is a dotted atom. -/
theorem dotted_of_address? {cs rest : List Char} (h : address? cs = some ((l, d), rest)) :
    Dotted d := by
  unfold address? at h
  split at h
  · next m tail hlocal =>
    obtain ⟨⟨e, more⟩, hdomain, heq⟩ := Option.map_eq_some_iff.mp h
    obtain ⟨hparts, -⟩ := Prod.mk.inj heq
    rw [← (Prod.mk.inj hparts).2]
    exact dotted_of_dottedAtom? hdomain
  · cases h

theorem dotted_of_angleAddress? {cs rest : List Char}
    (h : angleAddress? cs = some ((l, d), rest)) : Dotted d := by
  unfold angleAddress? at h
  split at h
  · split at h
    · next a tail haddress =>
      obtain ⟨rfl, -⟩ := Prod.mk.inj (Option.some.inj h)
      exact dotted_of_address? haddress
    · cases h
  · cases h

/-- An address that follows a name is read with it. -/
theorem dotted_of_namedAddress? {cs rest : List Char} {name : Option (List Char)}
    (h : namedAddress? cs = some ((name, l, d), rest)) :
    Dotted d ∧ ∀ n ∈ name, ∀ c ∈ n, isNameChar c = true := by
  unfold namedAddress? at h
  split at h
  · next w tail hphrase =>
    obtain ⟨⟨⟨l', d'⟩, more⟩, hangle, heq⟩ := Option.map_eq_some_iff.mp h
    obtain ⟨hparts, -⟩ := Prod.mk.inj heq
    obtain ⟨rfl, haddress⟩ := Prod.mk.inj hparts
    obtain ⟨-, rfl⟩ := Prod.mk.inj haddress
    refine ⟨dotted_of_angleAddress? hangle, fun n hn => ?_⟩
    obtain rfl : w = n := Option.some.inj hn
    exact isNameChar_of_mem_phrase? hphrase
  · obtain ⟨⟨⟨l', d'⟩, more⟩, hangle, heq⟩ := Option.map_eq_some_iff.mp h
    obtain ⟨hparts, -⟩ := Prod.mk.inj heq
    obtain ⟨rfl, haddress⟩ := Prod.mk.inj hparts
    obtain ⟨-, rfl⟩ := Prod.mk.inj haddress
    exact ⟨dotted_of_angleAddress? hangle, fun n hn => by cases hn⟩

end address

/-! ## §7. Mailboxes -/

namespace Mailbox

/-- Whether a local part does not begin with a quote mark. -/
def isUnquoted (m : Mailbox) : Bool := m.localPart.toList.head? != some '"'

/-- A mailbox whose address is made of two dotted atoms that the parser accepts, and whose name can
be written into a header. -/
structure Plain (m : Mailbox) : Prop where
  localPart : Dotted m.localPart.toList
  solid : ∀ c ∈ m.localPart.toList, Text.isBlank c = false
  domain : Dotted m.domain.toList
  goodLocalPart : isLocalPart m.localPart.toList = true
  goodDomain : isDomain m.domain.toList = true
  name : ∀ name ∈ m.name, ∀ c ∈ name.toList, isNameChar c = true

/-- What the parser gives is checked. -/
theorem check_eq_ok {name : Option (List Char)} {l d : List Char} {m : Mailbox}
    (h : check name l d = .ok m) : isLocalPart l = true ∧ isDomain d = true ∧
      m = ⟨name.map String.ofList, String.ofList l, String.ofList d⟩ := by
  unfold check at h
  split at h
  · cases h
  · next hl =>
    split at h
    · cases h
    · next hd => exact ⟨by simpa using hl, by simpa using hd, (Except.ok.inj h).symm⟩

theorem check_of_good {l d : List Char} (hl : isLocalPart l = true) (hd : isDomain d = true)
    (name : Option (List Char)) :
    check name l d = .ok ⟨name.map String.ofList, String.ofList l, String.ofList d⟩ := by
  unfold check
  rw [hl, hd]
  rfl

/-- A local part without a quote mark before it is made of labels of address characters. -/
theorem labels_of_isLocalPart {l : List Char} (h : isLocalPart l = true)
    (hunquoted : l.head? ≠ some '"') :
    ∀ part ∈ labels l, part ≠ [] ∧ ∀ c ∈ part, isAddressChar c = true := by
  have hquoted : isQuotedLocalPart l = false := by
    unfold isQuotedLocalPart
    split
    · exact absurd rfl hunquoted
    · rfl
  simp only [isLocalPart, hquoted, Bool.or_false, Bool.and_eq_true, List.all_eq_true] at h
  intro part hpart
  have hlabel := h.2 part hpart
  exact ⟨by simpa using hlabel.1, hlabel.2⟩

/-- A character of a text is a dot or stands in one of its labels. -/
theorem mem_labels {cs : List Char} {c : Char} (h : c ∈ cs) :
    c = '.' ∨ ∃ part ∈ labels cs, c ∈ part := by
  have hjoin : ∀ ls : List (List Char), c ∈ ['.'].intercalate ls →
      c = '.' ∨ ∃ part ∈ ls, c ∈ part := by
    intro ls
    induction ls with
    | nil => exact fun hc => absurd hc List.not_mem_nil
    | cons part rest ih =>
      intro hc
      cases rest with
      | nil => exact Or.inr ⟨part, List.mem_cons_self, by simpa using hc⟩
      | cons part' rest =>
        rw [List.intercalate_cons_cons, List.mem_append, List.mem_append] at hc
        rcases hc with (hc | hc) | hc
        · exact Or.inr ⟨part, List.mem_cons_self, hc⟩
        · exact Or.inl (List.mem_singleton.mp hc)
        · exact (ih hc).imp id fun ⟨p, hp, hcp⟩ => ⟨p, List.mem_cons_of_mem _ hp, hcp⟩
  refine hjoin (labels cs) ?_
  rwa [labels, List.intercalate_splitOn]

/-- What is known of the parts that a text is read as. -/
theorem read_parts {cs l d rest : List Char} {name : Option (List Char)}
    (h : (namedAddress? cs).or ((address? cs).map fun a => ((none, a.1), a.2))
      = some ((name, l, d), rest)) :
    Dotted d ∧ ∀ n ∈ name, ∀ c ∈ n, isNameChar c = true := by
  rcases Option.or_eq_some_iff.mp h with hnamed | ⟨-, halone⟩
  · exact dotted_of_namedAddress? hnamed
  · obtain ⟨⟨⟨l', d'⟩, more⟩, haddress, heq⟩ := Option.map_eq_some_iff.mp halone
    obtain ⟨hparts, -⟩ := Prod.mk.inj heq
    obtain ⟨rfl, hboth⟩ := Prod.mk.inj hparts
    obtain ⟨-, rfl⟩ := Prod.mk.inj hboth
    exact ⟨dotted_of_address? haddress, fun n hn => by cases hn⟩

/-- **What the parser gives is plain**, unless its local part begins with a quote mark. -/
theorem plain_of_parse {s : String} {m : Mailbox} (h : parse s = .ok m)
    (hunquoted : m.isUnquoted = true) : m.Plain := by
  unfold parse at h
  dsimp only at h
  split at h
  · next name l d rest hread =>
    split at h
    · obtain ⟨hl, hd, rfl⟩ := check_eq_ok h
      obtain ⟨hdotted, hname⟩ := read_parts hread
      simp only [isUnquoted, String.toList_ofList, bne_iff_ne] at hunquoted
      have hparts := labels_of_isLocalPart hl hunquoted
      have hatoms : ∀ part ∈ labels l, part ≠ [] ∧ ∀ c ∈ part, isAtomChar c = true :=
        fun part hpart => ⟨(hparts part hpart).1, fun c hc =>
          isAtomChar_of_isAddressChar ((hparts part hpart).2 c hc)⟩
      refine ⟨?_, ?_, ?_, ?_, ?_, ?_⟩ <;> simp only [String.toList_ofList]
      · exact dotted_of_labels hatoms
      · intro c hc
        rcases mem_labels hc with rfl | ⟨part, hpart, hc⟩
        · decide
        · exact not_isBlank_of_isAddressChar ((hparts part hpart).2 c hc)
      · exact hdotted
      · exact hl
      · exact hd
      · intro n hn c hc
        obtain ⟨cs, hcs, rfl⟩ := Option.map_eq_some_iff.mp hn
        rw [String.toList_ofList] at hc
        exact hname cs hcs c hc
    · cases h
  · cases h

/-- A text that begins with a visible character is read from there on. -/
theorem parse_of_read {s : String} {c : Char} {more l d : List Char} {name : Option (List Char)}
    (hs : s.toList = c :: more) (hc : Text.isBlank c = false)
    (hread : (namedAddress? s.toList).or ((address? s.toList).map fun a => ((none, a.1), a.2))
      = some ((name, l, d), []))
    (hl : isLocalPart l = true) (hd : isDomain d = true) :
    parse s = .ok ⟨name.map String.ofList, String.ofList l, String.ofList d⟩ := by
  have hskip : s.toList.dropWhile Text.isBlank = s.toList := by
    rw [hs]
    exact List.dropWhile_cons_of_neg (by simp [hc])
  unfold parse
  dsimp only
  rw [hskip, hread]
  exact check_of_good hl hd name

/-- An address between angle brackets. -/
def bracketed (m : Mailbox) : List Char :=
  '<' :: (m.localPart.toList ++ '@' :: (m.domain.toList ++ ['>']))

theorem address_toList (m : Mailbox) :
    m.address.toList = m.localPart.toList ++ '@' :: m.domain.toList := by
  unfold address
  simp [String.toList_append]

namespace Plain

variable {m : Mailbox} (h : m.Plain)

include h

theorem isPhraseChar_localPart : ∀ c ∈ m.localPart.toList, isPhraseChar c = true := by
  intro c hc
  rcases h.localPart.mem c hc with hatom | rfl
  · simp only [isPhraseChar, hatom, Bool.true_or]
  · decide +kernel

/-- A plain address is read as it stands. -/
theorem parse_address : parse m.address = .ok ⟨none, m.localPart, m.domain⟩ := by
  obtain ⟨c, rest, hfirst, hc⟩ := h.localPart.head
  have hphrase := phrase?_append (t := '@' :: m.domain.toList) (by rw [hfirst]; rfl) hc
    h.isPhraseChar_localPart (endsPhrase_cons (by decide +kernel) (by decide) _)
  obtain ⟨name, hphrase⟩ := hphrase
  have hnamed : namedAddress? (m.localPart.toList ++ '@' :: m.domain.toList) = none := by
    unfold namedAddress?
    rw [hphrase]
    rfl
  have haddress := address?_append h.localPart h.domain (t := []) fun c hc => by cases hc
  rw [List.append_nil] at haddress
  have hread : (namedAddress? m.address.toList).or
      ((address? m.address.toList).map fun a => ((none, a.1), a.2))
        = some ((none, m.localPart.toList, m.domain.toList), []) := by
    rw [m.address_toList, hnamed, haddress]
    rfl
  have hparse := parse_of_read (by rw [m.address_toList, hfirst]; rfl)
    (h.solid c (by rw [hfirst]; exact List.mem_cons_self)) hread h.goodLocalPart h.goodDomain
  rwa [String.ofList_toList, String.ofList_toList] at hparse

/-- The address of a plain mailbox is read after a name and between angle brackets. -/
theorem namedAddress?_of_phrase {cs name : List Char}
    (hphrase : phrase? cs = some (name, m.bracketed)) :
    namedAddress? cs = some ((some name, m.localPart.toList, m.domain.toList), []) := by
  unfold namedAddress?
  rw [hphrase]
  dsimp only [bracketed]
  rw [angleAddress?_append h.localPart h.domain]
  rfl

/-- **A plain mailbox reads back** from a header, with the same address.  What its name is read as
does not matter, as long as it is read whole. -/
theorem parse_header : ∃ name, parse m.header = .ok ⟨name, m.localPart, m.domain⟩ := by
  have haddress : m.header = m.address →
      ∃ name, parse m.header = .ok ⟨name, m.localPart, m.domain⟩ := fun heq =>
    ⟨none, by rw [heq]; exact h.parse_address⟩
  cases hname : m.name with
  | none =>
    refine haddress ?_
    unfold header
    rw [hname]
  | some name =>
    cases hblank : Text.isAllBlank name with
    | true =>
      refine haddress ?_
      unfold header
      rw [hname]
      exact if_pos hblank
    | false =>
      have hend : EndsPhrase m.bracketed := endsPhrase_cons (by decide +kernel) (by decide) _
      obtain ⟨d, cs, hfirst, hd, read, hphrase⟩ := read_headerName hblank (h.name name hname) hend
      have hheader : m.header.toList = d :: cs ++ ' ' :: m.bracketed := by
        rw [← hfirst]
        unfold header bracketed
        rw [hname]
        dsimp only
        rw [hblank]
        simp [String.toList_append, m.address_toList]
      rw [← hheader] at hphrase
      have hparse := parse_of_read hheader hd (by rw [h.namedAddress?_of_phrase hphrase]; rfl)
        h.goodLocalPart h.goodDomain
      rw [String.ofList_toList, String.ofList_toList] at hparse
      exact ⟨_, hparse⟩

/-- A plain mailbox stays plain when it is read back, and keeps its address. -/
theorem reread : ∃ m', m.reread = some m' ∧ m'.Plain ∧ m'.address = m.address := by
  obtain ⟨name, hparse⟩ := h.parse_header
  refine ⟨⟨name, m.localPart, m.domain⟩, ?_, plain_of_parse hparse ?_, rfl⟩
  · unfold Mailbox.reread
    rw [hparse]
    rfl
  · obtain ⟨c, rest, hfirst, hc⟩ := h.localPart.head
    have hquote : c ≠ '"' := ne_of_isAtomChar hc (by decide +kernel)
    simp [isUnquoted, hfirst, hquote]

end Plain

end Mailbox

end LocalizedMail.Smtp

import LocalizedMail.Smtp.Domain
import LocalizedMail.Text.Blank

/-!
# Mailboxes

A mailbox is an address, `local@domain`, with or without a name in front of it, in which case the
address stands between angle brackets.  The grammar is that of mail headers without comments and
folded lines:

  * an *atom* is a run of atom characters, a *dotted atom* several with dots between them;
  * a *word* is an atom or a text between quote marks;
  * a *name* is a word, followed by words, dots and blanks;
  * the *local part* is a dotted atom or a quoted text, the *domain* is a dotted atom; blanks may
    stand before a dotted atom, but not after it.

Alternatives are tried in this order, and the first one that fits is taken.  An address that the
grammar lets through can still be refused for its local part or its domain.

  * `Mailbox.parse`: the mailbox that a text spells;
  * `Mailbox.header`: a mailbox as it stands in a header;
  * `Mailbox.reread`: the mailbox that this form spells in turn.
-/

namespace LocalizedMail.Smtp

/-! ## §1. Characters -/

/-- Whether a character separates words on one line. -/
def isLineBlank (c : Char) : Bool := c == ' ' || c == '\t'

/-- Whether a character may stand in an atom. -/
def isAtomChar (c : Char) : Bool :=
  c.isAlphanum || 128 ≤ c.toNat || "!#$%&'*+-/=?^_`\x7b|\x7d~".toList.contains c

/-- Whether a character may stand after a backslash in a quoted text. -/
def isEscapable (c : Char) : Bool :=
  1 ≤ c.toNat && c.toNat ≤ 127 && c != '\n' && c != '\r'

/-- Whether a character may stand for itself in a quoted text. -/
def isQuotable (c : Char) : Bool :=
  isEscapable c && !isLineBlank c && c != '"' && c != '\\' || 128 ≤ c.toNat

/-- Whether a character is a visible one of ASCII. -/
def isVisible (c : Char) : Bool := '!' ≤ c && c ≤ '~'

/-! ## §2. Words -/

/-- The blanks that come next count as the first of them; what counts, and what is left. -/
def gap : List Char → List Char × List Char
  | c :: rest => if isLineBlank c then ([c], rest.dropWhile isLineBlank) else ([], c :: rest)
  | [] => ([], [])

theorem length_gap_le (cs : List Char) : (gap cs).2.length ≤ cs.length := by
  cases cs with
  | nil => simp [gap]
  | cons c rest =>
    simp only [gap]
    split
    · exact Nat.le_succ_of_le (Text.length_skip_le _ _)
    · exact Nat.le_refl _

/-- The run of atom characters that comes next, if there is one, and what is left. -/
def atomRun? (cs : List Char) : Option (List Char × List Char) :=
  let run := cs.takeWhile isAtomChar
  if run.isEmpty then none else some (run, cs.dropWhile isAtomChar)

theorem length_atomRun? {cs a rest : List Char} (h : atomRun? cs = some (a, rest)) :
    rest.length < cs.length := by
  unfold atomRun? at h
  cases cs with
  | nil => simp at h
  | cons c cs =>
    by_cases hc : isAtomChar c
    · simp [hc] at h
      obtain ⟨-, rfl⟩ := h
      exact Nat.lt_succ_of_le (Text.length_skip_le _ _)
    · simp [hc] at h

/-- One character of a quoted text, which a backslash may stand before. -/
def quotedChar? : List Char → Option (Char × List Char)
  | [] => none
  | c :: rest =>
    if isQuotable c then some (c, rest)
    else
      match c, rest with
      | '\\', d :: rest => if isEscapable d then some (d, rest) else none
      | _, _ => none

theorem length_quotedChar? {cs rest : List Char} {c : Char}
    (h : quotedChar? cs = some (c, rest)) : rest.length < cs.length := by
  unfold quotedChar? at h
  split at h
  · simp at h
  · split at h
    · simp only [Option.some.injEq, Prod.mk.injEq] at h
      obtain ⟨-, rfl⟩ := h
      simp
    · split at h
      · split at h
        · simp only [Option.some.injEq, Prod.mk.injEq] at h
          obtain ⟨-, rfl⟩ := h
          simp only [List.length_cons]
          omega
        · simp at h
      · simp at h

/-- The characters of a quoted text, and what is left. -/
def quotedBody (cs : List Char) : List Char × List Char :=
  match _h : quotedChar? (gap cs).2 with
  | some (c, rest) =>
    let more := quotedBody rest
    ((gap cs).1 ++ c :: more.1, more.2)
  | none => ([], cs)
termination_by cs.length
decreasing_by exact Nat.lt_of_lt_of_le (length_quotedChar? _h) (length_gap_le cs)

theorem length_quotedBody_le (cs : List Char) : (quotedBody cs).2.length ≤ cs.length := by
  fun_induction quotedBody cs with
  | case1 cs c rest h more ih =>
    exact Nat.le_trans ih
      (Nat.le_of_lt (Nat.lt_of_lt_of_le (length_quotedChar? h) (length_gap_le cs)))
  | case2 => simp

/-- A text between quote marks. -/
def quotedText? : List Char → Option (List Char × List Char)
  | '"' :: cs =>
    match (quotedBody cs).2.dropWhile isLineBlank with
    | '"' :: rest => some ((quotedBody cs).1, rest)
    | _ => none
  | _ => none

theorem length_quotedText? {cs q rest : List Char} (h : quotedText? cs = some (q, rest)) :
    rest.length < cs.length := by
  unfold quotedText? at h
  split at h
  · next cs =>
    split at h
    · next r hr =>
      simp only [Option.some.injEq, Prod.mk.injEq] at h
      obtain ⟨-, rfl⟩ := h
      have h1 := Text.length_skip_le isLineBlank (quotedBody cs).2
      have h2 := length_quotedBody_le cs
      rw [hr] at h1
      simp only [List.length_cons] at h1 ⊢
      omega
    · simp at h
  · simp at h

/-- A word. -/
def word? (cs : List Char) : Option (List Char × List Char) :=
  match quotedText? cs with
  | some r => some r
  | none => atomRun? cs

theorem length_word? {cs w rest : List Char} (h : word? cs = some (w, rest)) :
    rest.length < cs.length := by
  unfold word? at h
  split at h
  · next r hr =>
    simp only [Option.some.injEq] at h
    exact length_quotedText? (h ▸ hr)
  · exact length_atomRun? h

/-! ## §3. Sequences -/

/-- Dots with an atom after each, as many as come next, and what is left. -/
def dottedRuns (cs : List Char) : List Char × List Char :=
  match cs with
  | '.' :: tail =>
    match _h : atomRun? tail with
    | some (a, rest) =>
      let more := dottedRuns rest
      ('.' :: a ++ more.1, more.2)
    | none => ([], '.' :: tail)
  | cs => ([], cs)
termination_by cs.length
decreasing_by exact Nat.lt_succ_of_lt (length_atomRun? _h)

/-- A dotted atom, which blanks may stand before. -/
def dottedAtom? (cs : List Char) : Option (List Char × List Char) :=
  match atomRun? (cs.dropWhile isLineBlank) with
  | some (a, rest) => some (a ++ (dottedRuns rest).1, (dottedRuns rest).2)
  | none => none

/-- A part of a name after its first word: a word, a dot or a blank. -/
def phrasePart? (cs : List Char) : Option (List Char × List Char) :=
  match word? cs with
  | some r => some r
  | none =>
    match cs with
    | c :: rest => if c = '.' || isLineBlank c then some ([c], rest) else none
    | [] => none

theorem length_phrasePart? {cs w rest : List Char} (h : phrasePart? cs = some (w, rest)) :
    rest.length < cs.length := by
  unfold phrasePart? at h
  split at h
  · next r hr =>
    simp only [Option.some.injEq] at h
    exact length_word? (h ▸ hr)
  · split at h
    · split at h
      · simp only [Option.some.injEq, Prod.mk.injEq] at h
        obtain ⟨-, rfl⟩ := h
        simp
      · simp at h
    · simp at h

/-- Words, dots and blanks, as many as come next, and what is left. -/
def phraseRest (cs : List Char) : List Char × List Char :=
  match _h : phrasePart? cs with
  | some (w, rest) =>
    let more := phraseRest rest
    (w ++ more.1, more.2)
  | none => ([], cs)
termination_by cs.length
decreasing_by exact length_phrasePart? _h

/-- A name. -/
def phrase? (cs : List Char) : Option (List Char × List Char) :=
  match word? cs with
  | some (w, rest) => some (w ++ (phraseRest rest).1, (phraseRest rest).2)
  | none => none

/-! ## §4. Addresses -/

/-- The part before the `@`. -/
def localPart? (cs : List Char) : Option (List Char × List Char) :=
  (dottedAtom? cs).or (quotedText? cs)

/-- An address: its local part, its domain, and what is left. -/
def address? (cs : List Char) : Option ((List Char × List Char) × List Char) :=
  match localPart? cs with
  | some (l, '@' :: rest) => (dottedAtom? rest).map fun d => ((l, d.1), d.2)
  | _ => none

/-- An address between angle brackets. -/
def angleAddress? (cs : List Char) : Option ((List Char × List Char) × List Char) :=
  match cs with
  | '<' :: cs =>
    match address? cs with
    | some (a, '>' :: rest) => some (a, rest)
    | _ => none
  | _ => none

/-- An address that follows a name, or stands alone between angle brackets. -/
def namedAddress? (cs : List Char) :
    Option ((Option (List Char) × (List Char × List Char)) × List Char) :=
  match phrase? cs with
  | some (name, rest) => (angleAddress? rest).map fun a => ((some name, a.1), a.2)
  | none => (angleAddress? cs).map fun a => ((none, a.1), a.2)

/-! ## §5. Mailboxes -/

/-- An address, and the name of whoever reads its mail. -/
structure Mailbox where
  name : Option String
  localPart : String
  domain : String
  deriving DecidableEq, Repr

/-- Why a text is no mailbox. -/
inductive Mailbox.Fault where
  | malformed
  | badLocalPart
  | badDomain
  deriving DecidableEq, Repr

/-- A refusal in words. -/
def Mailbox.Fault.message : Mailbox.Fault → String
  | .malformed => "Invalid input"
  | .badLocalPart => "Invalid email user"
  | .badDomain => "Invalid email domain"

/-- Whether a text can stand between quote marks: blanks, visible characters but the quote mark, and
any visible character after a backslash. -/
def isQuotedContent : List Char → Bool
  | [] => true
  | c :: cs =>
    if c = '\\' then
      match cs with
      | d :: cs => isVisible d && isQuotedContent cs
      | [] => false
    else (isLineBlank c || isVisible c && c != '"') && isQuotedContent cs

/-- Whether a local part is acceptable as a quoted text: something between two quote marks. -/
def isQuotedLocalPart : List Char → Bool
  | '"' :: cs => cs.getLast? = some '"' && !cs.dropLast.isEmpty && isQuotedContent cs.dropLast
  | _ => false

/-- Whether a local part is acceptable: address characters with dots between them, or a text between
quote marks, of at most 64 bytes. -/
def isLocalPart (cs : List Char) : Bool :=
  byteLength cs ≤ 64 &&
    (((labels cs).all fun l => !l.isEmpty && l.all isAddressChar) || isQuotedLocalPart cs)

/-- The mailbox of a name and an address, unless a part of the address is not acceptable. -/
def Mailbox.check (name : Option (List Char)) (localPart domain : List Char) :
    Except Mailbox.Fault Mailbox :=
  if !isLocalPart localPart then .error .badLocalPart
  else if !isDomain domain then .error .badDomain
  else .ok ⟨name.map String.ofList, String.ofList localPart, String.ofList domain⟩

/-- The mailbox that a text spells, blanks around it apart. -/
def Mailbox.parse (s : String) : Except Mailbox.Fault Mailbox :=
  let cs := s.toList.dropWhile Text.isBlank
  let read := (namedAddress? cs).or ((address? cs).map fun a => ((none, a.1), a.2))
  match read with
  | some ((name, localPart, domain), rest) =>
    if rest.all Text.isBlank then check name localPart domain else .error .malformed
  | none => .error .malformed

/-- The address without a name. -/
def Mailbox.address (m : Mailbox) : String := m.localPart ++ "@" ++ m.domain

/-- Whether a name can stand in a header without quote marks. -/
def isPlainName (cs : List Char) : Bool := cs.all fun c => isAtomChar c || isLineBlank c

/-- A name as it stands in a header. -/
def headerName (name : String) : String :=
  if isPlainName name.toList then name
  else
    String.ofList <| '"' ::
      name.toList.flatMap (fun c => if c == '"' || c == '\\' then ['\\', c] else [c]) ++ ['"']

/-- A mailbox as it stands in a header: a name that is not blank stands before the address. -/
def Mailbox.header (m : Mailbox) : String :=
  match m.name with
  | some name =>
    if Text.isAllBlank name then m.address
    else headerName (Text.trim name) ++ " <" ++ m.address ++ ">"
  | none => m.address

/-- The mailbox that a header with a mailbox in it spells, unless it cannot be read. -/
def Mailbox.reread (m : Mailbox) : Option Mailbox := (parse m.header).toOption

end LocalizedMail.Smtp

import LocalizedMail.Settings.Value
import LocalizedMail.Text.Number

/-!
# What a value is taken for

A value need not have the type that a setting wants: truth values and numbers are taken for texts,
texts are taken for truth values and numbers if they spell one, and so on.  What cannot be taken for
anything is refused with the type that was expected.
-/

namespace LocalizedMail.Settings.Value

/-! ## §1. Single values -/

/-- Words that stand for a truth value. -/
def truthOf? (lowered : String) : Option Bool :=
  if ["true", "on", "yes"].contains lowered then some true
  else if ["false", "off", "no"].contains lowered then some false
  else none

/-- A truth value in a word. -/
def truthName (b : Bool) : String := if b then "true" else "false"

/-- The greatest whole number of 64 bits without a sign. -/
def greatestUnsigned : Nat := Nat.pow 2 64 - 1

/-- A value as text. -/
def asText (v : Value) : Except Fault String :=
  match v with
  | text _ s => .ok s
  | bool _ b => .ok (truthName b)
  | whole _ n => .ok (String.ofList (Json.wholeText n))
  | float _ x => .ok (Binary64.Layout.plain.text x)
  | _ => .error (v.refused "a string")

/-- A value as truth value. -/
def asBool (v : Value) : Except Fault Bool :=
  match v with
  | bool _ b => .ok b
  | whole _ n => .ok (n ≠ 0)
  | float _ x => .ok (!x.isZero)
  | text o s =>
    let lowered := Text.toLowerCase s
    match truthOf? lowered with
    | some b => .ok b
    | none =>
      if lowered = "1" then .ok true
      else if lowered = "0" then .ok false
      else .error (.wrongType (.text lowered) "a boolean" none o)
  | _ => .error (v.refused "a boolean")

/-- A value as binary64 number. -/
def asFloat (v : Value) : Except Fault Binary64 :=
  match v with
  | float _ x => .ok x
  | whole _ n => .ok (.ofInt n)
  | bool _ b => .ok (.ofNat b.toNat)
  | text _ s =>
    match truthOf? (Text.toLowerCase s), Text.binary64? s with
    | some b, _ => .ok (.ofNat b.toNat)
    | none, some x => .ok x
    | none, none => .error (v.refused "a floating point")
  | _ => .error (v.refused "a floating point")

/-- A value as whole number of 64 bits without a sign. -/
def asUnsigned (v : Value) : Except Fault Nat :=
  match v with
  | whole _ n =>
    if 0 ≤ n then .ok n.toNat else .error (v.refused "an unsigned 64 bit or less integer")
  | float _ x => .ok (x.roundHalfAway 0 greatestUnsigned).toNat
  | bool _ b => .ok b.toNat
  | text _ s =>
    match truthOf? (Text.toLowerCase s), Text.unsigned? (greatestUnsigned + 1) s with
    | some b, _ => .ok b.toNat
    | none, some n => .ok n
    | none, none => .error (v.refused "an integer")
  | _ => .error (v.refused "an integer")

/-- A value as whole number of fewer bits without a sign. -/
def asNarrow (bits : Nat) (v : Value) : Except Fault Nat :=
  match v.asUnsigned with
  | .error fault => .error fault
  | .ok n =>
    if n < Nat.pow 2 bits then .ok n
    else
      .error (.wrongType (.unsigned n) ("an unsigned " ++ toString bits ++ " bit integer") none none)

/-- A value as a text that may be missing. -/
def asOptionalText (v : Value) : Except Fault (Option String) :=
  match v with
  | nothing _ => .ok none
  | v => v.asText.map some

/-- A value as table. -/
def asTable (v : Value) : Except Fault (List (String × Value)) :=
  match v with
  | table _ es => .ok es
  | v => .error (v.refused "a map")

/-! ## §2. Choices -/

/-- A value as one of several names, which are compared in lower case.  A table with a single entry
stands for the name of its entry. -/
def asChoice {α : Type} (kind : String) (choices : List (String × α)) (v : Value) :
    Except Fault α :=
  let choose (name : String) : Except Fault α :=
    match choices.lookup (Text.toLowerCase name) with
    | some a => .ok a
    | none =>
      .error (.other ("enum " ++ kind ++ " does not have variant constructor " ++ name))
  match v with
  | text _ s => choose s
  | table _ [e] => choose e.1
  | _ =>
    .error (.other ("value of enum " ++ kind ++
      " should be represented by either string or table with exactly one key"))

end LocalizedMail.Settings.Value

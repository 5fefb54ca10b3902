import LocalizedMail.Settings.Value
import LocalizedMail.Text.Blank
import LocalizedMail.Text.Number

/-!
# Names that are paths

The name of a setting can be a path: a plain name, then entries after a dot and items between square
brackets, as in `smtp.port` or `hosts[0]`.  A name that does not spell a path stands for itself.
-/

namespace LocalizedMail.Settings

open Value (Place)

/-! ## §1. Reading paths -/

/-- Whether a character may stand in a plain name. -/
def isNameChar (c : Char) : Bool := c.isAlphanum || c == ' ' || c == '_' || c == '-'

/-- Whether a character may stand around the number of an item. -/
def isPadding (c : Char) : Bool := c == ' ' || c == '\t'

/-- Whether a minus sign comes first, and the text after it. -/
def splitMinus : List Char → Bool × List Char
  | '-' :: cs => (true, cs)
  | cs => (false, cs)

theorem length_splitMinus_le (cs : List Char) : (splitMinus cs).2.length ≤ cs.length := by
  unfold splitMinus
  split <;> simp

/-- The number of an item, if it is one of 64 bits. -/
def itemIndex? (negative : Bool) (digits : List Char) : Option Int :=
  ((Text.naturalOf? digits).map fun n => if negative then -(n : Int) else n).filter
    Value.isSigned64

/-- The number of an item, whose opening bracket has been passed, up to its closing bracket. -/
def item? (cs : List Char) : Option (Int × List Char) :=
  let signed := splitMinus (cs.dropWhile isPadding)
  match (signed.2.dropWhile Char.isDigit).dropWhile isPadding with
  | ']' :: rest => (itemIndex? signed.1 (signed.2.takeWhile Char.isDigit)).map fun i => (i, rest)
  | _ => none

theorem length_item? {cs rest : List Char} {i : Int} (h : item? cs = some (i, rest)) :
    rest.length < cs.length := by
  unfold item? at h
  simp only at h
  split at h
  · next r hr =>
    obtain ⟨_, _, heq⟩ := Option.map_eq_some_iff.1 h
    simp only [Prod.mk.injEq] at heq
    obtain ⟨-, rfl⟩ := heq
    have h1 := Text.length_skip_le isPadding cs
    have h2 := length_splitMinus_le (cs.dropWhile isPadding)
    have h3 := Text.length_skip_le Char.isDigit (splitMinus (cs.dropWhile isPadding)).2
    have h4 := Text.length_skip_le isPadding
      ((splitMinus (cs.dropWhile isPadding)).2.dropWhile Char.isDigit)
    rw [hr, List.length_cons] at h4
    omega
  · simp at h

/-- The steps of a path after its first name. -/
def places? (cs : List Char) : Option (List Place) :=
  match cs with
  | [] => some []
  | '.' :: tail =>
    if (tail.takeWhile isNameChar).isEmpty then none
    else
      (places? (tail.dropWhile isNameChar)).map
        (.entry (String.ofList (tail.takeWhile isNameChar)) :: ·)
  | '[' :: tail =>
    match _h : item? tail with
    | some (i, rest) => (places? rest).map (.item i :: ·)
    | none => none
  | _ :: _ => none
termination_by cs.length
decreasing_by
  · exact Nat.lt_succ_of_le (Text.length_skip_le _ _)
  · exact Nat.lt_succ_of_lt (length_item? _h)

/-- The path that a name spells. -/
def path? (name : String) : Option (List Place) :=
  let cs := name.toList
  if (cs.takeWhile isNameChar).isEmpty then none
  else
    (places? (cs.dropWhile isNameChar)).map (.entry (String.ofList (cs.takeWhile isNameChar)) :: ·)

/-- The path that a name stands for. -/
def pathOf (name : String) : List Place := (path? name).getD [.entry name]

/-! ## §2. Layers -/

/-- Settings with a value put at the path that a name stands for. -/
def Value.setNamed (here : Value) (name : String) (value : Value) : Value :=
  setAt value (pathOf name) here

/-- Settings with all values of a layer put on top, their names taken as paths. -/
def Value.overlay (here : Value) (layer : List (String × Value)) : Value :=
  layer.foldl (fun v e => v.setNamed e.1 e.2) here

end LocalizedMail.Settings

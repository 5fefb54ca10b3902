import LocalizedMail.Settings.Fault
import LocalizedMail.Table
import LocalizedMail.Text.LowerCase

/-!
# Values of settings

Before it is known what a setting means, it is a value: nothing, a truth value, a number, a text, a
list or a table.  A value remembers the source it came from, for the wording of complaints.

Tables are merged: a table that is put where a table is goes into it entry by entry, and everything
else replaces what was there.  An empty table therefore never replaces anything.  Names of entries
are compared in lower case.

  * `Value.put` puts a value under a name;
  * `Value.setAt` puts a value at the end of a path, making tables and lists on the way.
-/

namespace LocalizedMail.Settings

/-! ## §1. Values -/

/-- A value and the name of its source, if it has one. -/
inductive Value where
  | nothing (origin : Option String)
  | bool (origin : Option String) (value : Bool)
  | whole (origin : Option String) (value : Int)
  | float (origin : Option String) (value : Binary64)
  | text (origin : Option String) (value : String)
  | list (origin : Option String) (items : List Value)
  | table (origin : Option String) (entries : List (String × Value))
  deriving Inhabited

namespace Value

/-- The source of a value. -/
def origin : Value → Option String
  | nothing o | bool o _ | whole o _ | float o _ | text o _ | list o _ | table o _ => o

/-- A value as it is described in complaints. -/
def found : Value → Found
  | nothing _ => .nothing
  | bool _ b => .bool b
  | whole _ n => .signed n
  | float _ x => .float x
  | text _ s => .text s
  | list _ _ => .list
  | table _ _ => .table

/-- The complaint that a value is not what was expected. -/
def refused (v : Value) (expected : String) : Fault := .wrongType v.found expected none v.origin

/-- Whether a number is one of 64 bits with a sign. -/
def isSigned64 (n : Int) : Bool :=
  -Int.ofNat (Nat.pow 2 63) ≤ n && n < Int.ofNat (Nat.pow 2 63)

mutual

/-- The value of a document; whole numbers of more than 64 bits are binary64 numbers. -/
def ofJson (origin : Option String) : Json → Value
  | .null => nothing origin
  | .bool b => bool origin b
  | .whole n => if isSigned64 n then whole origin n else float origin (.ofInt n)
  | .float x => float origin x
  | .text s => text origin s
  | .list items => list origin (ofItems origin items)
  | .object fields => table origin (ofFields origin fields)

/-- The values of the items of a list. -/
def ofItems (origin : Option String) : List Json → List Value
  | [] => []
  | j :: rest => ofJson origin j :: ofItems origin rest

/-- The values of the fields of an object. -/
def ofFields (origin : Option String) : List (String × Json) → List (String × Value)
  | [] => []
  | (name, j) :: rest => (name, ofJson origin j) :: ofFields origin rest

end

/-! ## §2. Tables -/

/-- The table without entries. -/
def emptyTable : Value := table none []

/-- The entries of a table; other values have none. -/
def entries : Value → List (String × Value)
  | table _ es => es
  | _ => []

/-- The entry of a name in lower case. -/
def entry? (v : Value) (name : String) : Option Value :=
  v.entries.lookup (Text.toLowerCase name)

/-- A table in which a name has a value; what is no table becomes one. -/
def replaceEntry (name : String) (value : Value) : Value → Value
  | table o es => table o (putEntry (Text.toLowerCase name) value es)
  | _ => table none [(Text.toLowerCase name, value)]

mutual

/-- A table with a value put under a name.  Tables are merged, everything else replaces. -/
def put (name : String) (here : Value) : Value → Value
  | table _ es => replaceEntry name (putAll ((here.entry? name).getD emptyTable) es) here
  | v => replaceEntry name v here

/-- A table with several values put under their names. -/
def putAll (here : Value) : List (String × Value) → Value
  | [] => here
  | (name, v) :: rest => putAll (put name here v) rest

end

/-! ## §3. Paths -/

/-- A step of a path: to an entry of a table or to an item of a list.  Items are counted from the
start, or from the end with a number below zero. -/
inductive Place where
  | entry (name : String)
  | item (index : Int)
  deriving DecidableEq, Repr

/-- The items of a list; other values have none. -/
def items : Value → List Value
  | list _ vs => vs
  | _ => []

/-- The position that an index stands for in a list of a given length. -/
def position (index : Int) (length : Nat) : Nat :=
  if 0 ≤ index then index.toNat else length - index.natAbs

/-- A list in which the item at a position is changed; it is filled up with nothing as far as
needed, and what is no list becomes one. -/
def changeItem (index : Int) (f : Value → Value) (v : Value) : Value :=
  let vs := v.items
  let i := position index vs.length
  let vs := vs ++ List.replicate (i + 1 - vs.length) (nothing none)
  let o := match v with | list o _ => o | _ => none
  list o (vs.modify i f)

/-- Puts a value at the end of a path. -/
def setAt (value : Value) : List Place → Value → Value
  | [], _ => value
  | [.entry name], here => put name here value
  | .entry name :: rest, here =>
    replaceEntry name (setAt value rest ((here.entry? name).getD (nothing none))) here
  | .item index :: rest, here => changeItem index (setAt value rest) here

end Value

end LocalizedMail.Settings

import LocalizedMail.Json.Fault
import LocalizedMail.Text.Blank

/-!
# Files and directories

Everything that is read from disk is read from a tree: a directory of named files and directories.
A path is a text whose parts stand between slashes; an empty part and `.` stay where they are, `..`
goes up.  A path that leaves the tree leads nowhere.  Neither a part nor a whole path may be too
long.

Looking something up can go wrong in a few ways (`FileFault`), and the difference between a path
that leads nowhere and every other fault matters: a lookup goes on silently after the first and
complains about the others.

The entries of a directory have an order, the one in which they are listed.
-/

namespace LocalizedMail

/-! ## §1. Faults -/

/-- Why a file or directory could not be read. -/
inductive FileFault where
  | notFound
  | notADirectory
  | isADirectory
  | notText
  | nameTooLong
  | nulInName
  /-- the file was read, but is no document of the wanted shape -/
  | misread (fault : Json.Fault)
  /-- any other fault, in words -/
  | other (text : String)
  deriving DecidableEq, Repr

/-- A fault in words. -/
def FileFault.message : FileFault → String
  | .notFound => "No such file or directory (os error 2)"
  | .notADirectory => "Not a directory (os error 20)"
  | .isADirectory => "Is a directory (os error 21)"
  | .notText => "stream did not contain valid UTF-8"
  | .nameTooLong => "File name too long (os error 36)"
  | .nulInName => "file name contained an unexpected NUL byte"
  | .misread fault => fault.message
  | .other text => text

/-! ## §2. Trees -/

/-- What a file holds: text, or bytes that may be no text. -/
inductive Content where
  | text (s : String)
  | bytes (b : ByteArray)

/-- The text of a file, if it is text. -/
def Content.text? : Content → Option String
  | .text s => some s
  | .bytes b => String.fromUTF8? b

/-- A file or a directory. -/
inductive FileTree where
  | file (content : Content)
  | directory (entries : List (String × FileTree))

namespace FileTree

/-- The directory without entries. -/
def empty : FileTree := .directory []

/-! ## §3. Walking -/

/-- The parts of a path. -/
def parts (path : String) : List String := Text.cut '/' path

/-- The path of an entry of a directory. -/
def join (directory name : String) : String :=
  if directory = "" ∨ directory.toList.getLast? = some '/' then directory ++ name
  else directory ++ "/" ++ name

/-- Follows the parts of a path from a node whose ancestors are given, nearest first. -/
def walk (ancestors : List FileTree) (here : FileTree) : List String → Except FileFault FileTree
  | [] => .ok here
  | part :: rest =>
    match here with
    | .file _ => .error .notADirectory
    | .directory entries =>
      if part = "" ∨ part = "." then walk ancestors here rest
      else if part = ".." then
        match ancestors with
        | [] => .error .notFound
        | parent :: older => walk older parent rest
      else if 255 < part.utf8ByteSize then .error .nameTooLong
      else
        match entries.lookup part with
        | some child => walk (here :: ancestors) child rest
        | none => .error .notFound

/-- The number of bytes that no path reaches. -/
def pathBound : Nat := 4096

/-- What a path leads to. -/
def find (tree : FileTree) (path : String) : Except FileFault FileTree :=
  if path.toList.contains '\x00' then .error .nulInName
  else if pathBound ≤ path.utf8ByteSize then .error .nameTooLong
  else if path = "" ∨ path.toList.head? = some '/' then .error .notFound
  else walk [] tree (parts path)

/-! ## §4. Reading -/

/-- What the file at a path holds. -/
def content (tree : FileTree) (path : String) : Except FileFault Content :=
  match tree.find path with
  | .ok (.file c) => .ok c
  | .ok (.directory _) => .error .isADirectory
  | .error fault => .error fault

/-- The text of the file at a path. -/
def readText (tree : FileTree) (path : String) : Except FileFault String :=
  match tree.content path with
  | .ok c =>
    match c.text? with
    | some s => .ok s
    | none => .error .notText
  | .error fault => .error fault

/-- Whether a path leads to a file. -/
def isFile (tree : FileTree) (path : String) : Bool :=
  match tree.find path with
  | .ok (.file _) => true
  | _ => false

/-- The entries of the directory at a path, in the order in which they are listed. -/
def entries (tree : FileTree) (path : String) : Except FileFault (List (String × FileTree)) :=
  match tree.find path with
  | .ok (.directory es) => .ok es
  | .ok (.file _) => .error .notADirectory
  | .error fault => .error fault

/-- Whether a node is a file. -/
def isFileNode : FileTree → Bool
  | .file _ => true
  | .directory _ => false

/-! ## §5. Changing a tree -/

/-- Entries with one more put in, in order of names; an entry of the same name is replaced. -/
def putEntry (name : String) (node : FileTree) : List (String × FileTree) → List (String × FileTree)
  | [] => [(name, node)]
  | (n, t) :: rest =>
    if name = n then (name, node) :: rest
    else if name < n then (name, node) :: (n, t) :: rest
    else (n, t) :: putEntry name node rest

/-- The names on the way to a place, the parts that stay where they are left out. -/
def steps (path : String) : List String :=
  (parts path).filter (fun p => p ≠ "" ∧ p ≠ ".")

/-- Puts a node at a place, making the directories on the way; a directory that is put where one is
keeps its entries. -/
def putAt (node : FileTree) : List String → Option FileTree → Option FileTree
  | [], some (.directory es) =>
    match node with
    | .directory _ => some (.directory es)
    | .file _ => none
  | [], some (.file _) =>
    match node with
    | .directory _ => none
    | .file _ => some node
  | [], none => some node
  | name :: rest, some (.directory es) =>
    (putAt node rest (es.lookup name)).map fun child => .directory (putEntry name child es)
  | _ :: _, some (.file _) => none
  | name :: rest, none =>
    (putAt node rest none).map fun child => .directory [(name, child)]

/-- The tree with a file at a path. -/
def write (tree : FileTree) (path : String) (c : Content) : Option FileTree :=
  putAt (.file c) (steps path) (some tree)

/-- The tree with a directory at a path. -/
def makeDirectory (tree : FileTree) (path : String) : Option FileTree :=
  putAt empty (steps path) (some tree)

/-- The node without what is at a place below it. -/
def removeAt : List String → FileTree → Option FileTree
  | [], _ => some empty
  | [name], .directory es =>
    if (es.lookup name).isSome then some (.directory (es.filter (fun e => e.1 ≠ name))) else none
  | name :: next :: rest, .directory es =>
    match es.lookup name with
    | some child =>
      (removeAt (next :: rest) child).map fun c => .directory (putEntry name c es)
    | none => none
  | _ :: _, .file _ => none

/-- The tree without the file or directory at a path. -/
def remove (tree : FileTree) (path : String) : Option FileTree :=
  removeAt (steps path) tree

end FileTree

end LocalizedMail

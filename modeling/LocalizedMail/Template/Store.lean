import LocalizedMail.Event
import LocalizedMail.Language
import LocalizedMail.Template.Name

/-!
# The template store

A store finds the body of a named template for a language.  It has three tiers: bodies registered
in memory, bodies that were read before (the cache), and files.  A lookup goes through the
directories of the requested language, the whole list in one tier before the next tier, and then in
the same way through the directories that the default language adds.

  * what is registered is never hidden by the cache, and nothing but another registration changes
    it;
  * a body read from a file is kept under the directory it was found in, until it is cleared;
  * a file that cannot be read is passed over, with a complaint unless it simply is not there.

`load` is the lookup, `info` says where it would end without reading anything, `list` names what a
language offers.
-/

namespace LocalizedMail.Template

/-! ## §1. Stores -/

/-- What a body is filed under: a language directory and a template name. -/
structure Key where
  directory : String
  name : String
  deriving DecidableEq, Repr

/-- The extension of template files. -/
def fileExtension : String := "xhtml"

/-- Registered and cached bodies, and where files are. -/
structure Store where
  /-- the directory that holds one directory for each language -/
  root : String
  /-- the language tried after the requested one -/
  defaultLang : String
  /-- registered bodies -/
  memory : Table Key String
  /-- bodies read from files -/
  cache : Table Key String

namespace Store

/-- A store without bodies. -/
def create (root defaultLang : String) : Store := ⟨root, defaultLang, .empty, .empty⟩

/-- The path of a language directory. -/
def directoryPath (s : Store) (directory : String) : String := FileTree.join s.root directory

/-- The path of the file of a template. -/
def path (s : Store) (directory name : String) : String :=
  FileTree.join (s.directoryPath directory) (name ++ "." ++ fileExtension)

/-- The chain of directories for a language, a blank one asking for the default. -/
def chain (s : Store) (lang : String) : Language.Chain :=
  Language.Chain.of (Language.orDefault lang s.defaultLang) s.defaultLang

/-- The number of cached bodies. -/
def cachedCount (s : Store) : Nat := s.cache.size

/-- The number of registered bodies. -/
def registeredCount (s : Store) : Nat := s.memory.size

/-! ## §2. Registering -/

/-- Registers a body, in place of an earlier one of the same language and name. -/
def register (s : Store) (name body lang : String) : Step (Except Fault Unit) Store :=
  match checkName name with
  | .error fault => ⟨.error fault, s, []⟩
  | .ok () =>
    let directory := Language.filedUnder lang s.defaultLang
    { result := .ok ()
      state := { s with memory := s.memory.insert ⟨directory, name⟩ body }
      events := [.registered name directory] }

/-! ## §3. Looking up -/

/-- The first directory under which a table has a template, and the body. -/
def firstIn (t : Table Key String) (name : String) (directories : List String) :
    Option (String × String) :=
  directories.findSome? fun d => (t.get? ⟨d, name⟩).map fun body => (d, body)

/-- The first directory with a readable file of a template, the text, and what happened on the
way. -/
def firstFile (disk : FileTree) (s : Store) (name : String) :
    List String → Option (String × String) × List Event
  | [] => (none, [])
  | d :: rest =>
    let path := s.path d name
    match disk.readText path with
    | .ok body => (some (d, body), [.served .disk, .bodyRead name d path])
    | .error .notFound => firstFile disk s name rest
    | .error fault =>
      let (found, events) := firstFile disk s name rest
      (found, .unreadable name path fault :: events)

/-- Keeps a body that was read from a file; a body that is already kept stays. -/
def keep (s : Store) (key : Key) (body : String) : Store :=
  if s.cache.contains key then s else { s with cache := s.cache.insert key body }

/-- Looks for a template under a list of directories, tier by tier. -/
def lookup (disk : FileTree) (s : Store) (name : String) (directories : List String) :
    Step (Option String) Store :=
  match firstIn s.memory name directories with
  | some (_, body) => ⟨some body, s, [.served .memory]⟩
  | none =>
    match firstIn s.cache name directories with
    | some (_, body) => ⟨some body, s, [.served .cache]⟩
    | none =>
      match firstFile disk s name directories with
      | (some (d, body), events) => ⟨some body, s.keep ⟨d, name⟩ body, events⟩
      | (none, events) => ⟨none, s, events⟩

/-- The body of a template for a language. -/
def load (disk : FileTree) (s : Store) (name lang : String) : Step (Except Fault String) Store :=
  match checkName name with
  | .error fault => ⟨.error fault, s, []⟩
  | .ok () =>
    let asked := Language.orDefault lang s.defaultLang
    let chain := s.chain lang
    let first := lookup disk s name chain.requested
    match first.result with
    | some body => ⟨.ok body, first.state, first.events⟩
    | none =>
      if chain.fallback.isEmpty then
        ⟨.error (.notFound name asked), first.state, first.events ++ [.notFound]⟩
      else
        let second := lookup disk first.state name chain.fallback
        let events := first.events ++ .fellBack name asked s.defaultLang :: second.events
        match second.result with
        | some body => ⟨.ok body, second.state, events⟩
        | none => ⟨.error (.notFound name asked), second.state, events ++ [.notFound]⟩

/-- Whether a template can be loaded.  A body that is found is kept as `load` keeps it. -/
def isAvailable (disk : FileTree) (s : Store) (name lang : String) : Step Bool Store :=
  (s.load disk name lang).map fun r => r.toBool

/-! ## §4. Describing -/

/-- Where a lookup would end. -/
inductive Place where
  | registered (directory : String)
  | onDisk (directory : String) (cached : Bool) (path : String)
  | nowhere (lang : String)
  deriving DecidableEq, Repr

/-- A template name and where a lookup of it would end. -/
structure Info where
  name : String
  place : Place
  deriving DecidableEq, Repr

namespace Info

/-- Whether the template is anywhere. -/
def «exists» (i : Info) : Bool :=
  match i.place with
  | .nowhere _ => false
  | _ => true

/-- The directory the lookup ends in, or the language that was asked for. -/
def lang (i : Info) : String :=
  match i.place with
  | .registered d => d
  | .onDisk d _ _ => d
  | .nowhere l => l

/-- What holds the template, in a word. -/
def origin (i : Info) : String :=
  match i.place with
  | .registered _ => "memory"
  | .onDisk _ _ _ => "disk"
  | .nowhere _ => "none"

/-- Whether the body is in the cache. -/
def cached (i : Info) : Bool :=
  match i.place with
  | .onDisk _ c _ => c
  | _ => false

/-- The path of the file, for a template that is a file. -/
def path? (i : Info) : Option String :=
  match i.place with
  | .onDisk _ _ p => some p
  | _ => none

end Info

/-- Where a lookup under a list of directories would end. -/
def locate (disk : FileTree) (s : Store) (name : String) (directories : List String) :
    Option Place :=
  match firstIn s.memory name directories with
  | some (d, _) => some (.registered d)
  | none =>
    match firstIn s.cache name directories with
    | some (d, _) => some (.onDisk d true (s.path d name))
    | none =>
      (directories.find? fun d => disk.isFile (s.path d name)).map
        fun d => .onDisk d false (s.path d name)

/-- Where a lookup for a language would end.  Nothing is read or kept. -/
def info (disk : FileTree) (s : Store) (name lang : String) : Except Fault Info :=
  match checkName name with
  | .error fault => .error fault
  | .ok () =>
    let chain := s.chain lang
    let place :=
      match s.locate disk name chain.requested with
      | some p => p
      | none =>
        match s.locate disk name chain.fallback with
        | some p => p
        | none => .nowhere (Language.orDefault lang s.defaultLang)
    .ok ⟨name, place⟩

/-! ## §5. Listing -/

/-- A file name cut at its last dot; a name whose only dot comes first has no extension. -/
def splitExtension (fileName : String) : Option (String × String) :=
  let reversed := fileName.toList.reverse
  let extension := (reversed.takeWhile (· != '.')).reverse
  match reversed.dropWhile (· != '.') with
  | '.' :: c :: stem => some (String.ofList ((c :: stem).reverse), String.ofList extension)
  | _ => none

/-- The template that an entry of the directory at a path is the file of. -/
def templateOf? (disk : FileTree) (directory fileName : String) : Option String :=
  match disk.isFile (FileTree.join directory fileName), splitExtension fileName with
  | true, some (stem, extension) =>
    if extension = fileExtension && isName stem then some stem else none
  | _, _ => none

/-- The templates that are files of a list of language directories. -/
def namesOnDisk (disk : FileTree) (s : Store) : List String → Except Fault (List String)
  | [] => .ok []
  | d :: rest =>
    match disk.entries (s.directoryPath d) with
    | .ok entries =>
      match namesOnDisk disk s rest with
      | .ok names =>
        .ok ((entries.map Prod.fst).filterMap (templateOf? disk (s.directoryPath d)) ++ names)
      | .error fault => .error fault
    | .error .notFound => namesOnDisk disk s rest
    | .error fault => .error (.storage fault)

/-- The templates that are registered under a list of language directories. -/
def namesInMemory (s : Store) (directories : List String) : List String :=
  (s.memory.keys.filter fun k => directories.contains k.directory).map Key.name

/-- Names in order, each once. -/
def sorted (names : List String) : List String :=
  (distinct names).mergeSort (fun a b => a ≤ b)

/-- The templates that a language offers; the default language is not asked. -/
def list (disk : FileTree) (s : Store) (lang : String) : Except Fault (List String) :=
  let directories := (s.chain lang).requested
  match namesOnDisk disk s directories with
  | .ok names => .ok (sorted (names ++ s.namesInMemory directories))
  | .error fault => .error fault

/-! ## §6. Clearing -/

/-- Drops every cached body. -/
def clearCache (s : Store) : Step Unit Store :=
  ⟨(), { s with cache := .empty }, [.cacheCleared s.cache.size]⟩

/-- Drops the cached bodies of a template that a lookup for a language could come to. -/
def clearTemplate (s : Store) (name lang : String) : Step Unit Store :=
  let cache := (s.chain lang).all.foldl (fun t d => t.erase ⟨d, name⟩) s.cache
  ⟨(), { s with cache := cache },
    [.templateCleared name (Language.orDefault lang s.defaultLang)]⟩

end Store

end LocalizedMail.Template

import LocalizedMail.CommandLine.Help
import LocalizedMail.Text.Number

/-!
# Arguments

The arguments of the program are a command and its own arguments.  Options begin with two hyphens;
their value is the next argument or follows an equals sign.  After `--` nothing is an option any
more.  Arguments are taken from left to right, and the first one that is no good, or asks for help,
decides.
-/

namespace LocalizedMail.CommandLine

/-! ## §1. Commands -/

/-- What the program is asked to do. -/
inductive Command where
  | render (name : String) (lang : Option String) (values : List (String × String))
  | info (name : String) (lang : Option String)
  | list (lang : Option String)
  | send (name : String) (addressees cc bcc : List String) (lang : Option String)
      (values : List (String × String)) (attempts : Option Nat)
  deriving DecidableEq, Repr

/-- Why there is no command to carry out. -/
inductive Refusal where
  /-- the arguments ask for help -/
  | help (topic : Topic)
  /-- the arguments ask for the version -/
  | version
  /-- the arguments are no good -/
  | misuse
  deriving DecidableEq, Repr

/-! ## §2. Options -/

/-- The options of all commands. -/
inductive Flag where
  | lang
  | var
  | addressee
  | cc
  | bcc
  | attempts
  deriving DecidableEq, Repr

/-- The name of an option. -/
def Flag.name : Flag → String
  | lang => "lang"
  | var => "var"
  | addressee => "to"
  | cc => "cc"
  | bcc => "bcc"
  | attempts => "attempts"

/-- The options of a command. -/
def Topic.flags : Topic → List Flag
  | .render => [.lang, .var]
  | .info | .list => [.lang]
  | .send => [.addressee, .cc, .bcc, .lang, .var, .attempts]
  | .program | .help => []

/-- What has been found so far. -/
structure Found where
  name : Option String := none
  lang : Option String := none
  values : List (String × String) := []
  addressees : List String := []
  cc : List String := []
  bcc : List String := []
  attempts : Option Nat := none

/-- A text cut at its first equals sign; nothing if there is none. -/
def cutAtEquals? (cs : List Char) : Option (List Char × List Char) :=
  match cs.dropWhile (· != '=') with
  | '=' :: value => some (cs.takeWhile (· != '='), value)
  | _ => none

/-- The name and value that a text spells. -/
def pair? (s : String) : Option (String × String) :=
  match cutAtEquals? s.toList with
  | some (key@(_ :: _), value) => some (String.ofList key, String.ofList value)
  | _ => none

/-- The number of attempts that a text spells. -/
def attempts? (s : String) : Option Nat :=
  (Text.signed? s).bind fun n => if 0 ≤ n ∧ n < Int.ofNat (Nat.pow 2 32) then some n.toNat else none

/-- What has been found, with the value of an option; nothing if the value is no good, or the option
came before and may not come twice. -/
def Found.put? (f : Found) (flag : Flag) (value : String) : Option Found :=
  match flag with
  | .lang => if f.lang.isSome then none else some { f with lang := some value }
  | .var => (pair? value).map fun p => { f with values := f.values ++ [p] }
  | .addressee => some { f with addressees := f.addressees ++ [value] }
  | .cc => some { f with cc := f.cc ++ [value] }
  | .bcc => some { f with bcc := f.bcc ++ [value] }
  | .attempts =>
    if f.attempts.isSome then none
    else (attempts? value).map fun n => { f with attempts := some n }

/-! ## §3. Taking arguments -/

/-- The kinds of argument. -/
inductive Kind where
  | endOfOptions
  /-- an option, perhaps with a value -/
  | long (name : List Char) (value : Option (List Char))
  | short (letters : List Char)
  | plain

/-- The kind of an argument. -/
def Kind.of (argument : String) : Kind :=
  match argument.toList with
  | ['-', '-'] => .endOfOptions
  | '-' :: '-' :: cs =>
    match cutAtEquals? cs with
    | some (name, value) => .long name (some value)
    | none => .long cs none
  | '-' :: c :: cs => .short (c :: cs)
  | _ => .plain

/-- What has been found, with a plain argument, which is the name of a template. -/
def Found.putPlain? (topic : Topic) (f : Found) (argument : String) : Option Found :=
  if topic = .list || f.name.isSome then none else some { f with name := some argument }

/-- What has been found after the arguments in which nothing is an option. -/
def Found.putAll? (topic : Topic) (f : Found) : List String → Option Found
  | [] => some f
  | a :: rest => (f.putPlain? topic a).bind fun f => f.putAll? topic rest

/-- Takes the arguments of a command from left to right. -/
def take (topic : Topic) (f : Found) : List String → Except Refusal Found
  | [] => .ok f
  | argument :: rest =>
    let orMisuse (f? : Option Found) : Except Refusal Found :=
      match f? with
      | some f => .ok f
      | none => .error .misuse
    match Kind.of argument with
    | .endOfOptions => orMisuse (f.putAll? topic rest)
    | .short ('h' :: _) => .error (.help topic)
    | .short _ => .error .misuse
    | .plain => do
      let f ← orMisuse (f.putPlain? topic argument)
      take topic f rest
    | .long name value =>
      if name = "help".toList then
        if value.isNone then .error (.help topic) else .error .misuse
      else
        match topic.flags.find? fun flag => flag.name.toList = name, value, rest with
        | none, _, _ => .error .misuse
        | some flag, some value, rest => do
          let f ← orMisuse (f.put? flag (String.ofList value))
          take topic f rest
        | some _, none, [] => .error .misuse
        | some flag, none, value :: rest =>
          match Kind.of value with
          | .plain => do
            let f ← orMisuse (f.put? flag value)
            take topic f rest
          | _ => .error .misuse

/-- The command of what has been found, if nothing is missing. -/
def Found.command? (topic : Topic) (f : Found) : Option Command :=
  match topic, f.name with
  | .render, some name => some (.render name f.lang f.values)
  | .info, some name => some (.info name f.lang)
  | .list, _ => some (.list f.lang)
  | .send, some name =>
    if f.addressees.isEmpty then none
    else some (.send name f.addressees f.cc f.bcc f.lang f.values f.attempts)
  | _, _ => none

/-- What help is asked about. -/
def helpTopic : List String → Refusal
  | [] => .help .program
  | [name] =>
    match Topic.ofName? name with
    | some topic => .help topic
    | none => .misuse
  | _ => .misuse

/-- The command that arguments spell. -/
def parse (arguments : List String) : Except Refusal Command :=
  match arguments with
  | [] => .error .misuse
  | first :: rest =>
    match Kind.of first with
    | .long name none =>
      if name = "help".toList then .error (.help .program)
      else if name = "version".toList then .error .version
      else .error .misuse
    | .short ('h' :: _) => .error (.help .program)
    | .short ('V' :: _) => .error .version
    | .plain =>
      match Topic.ofName? first with
      | some .help => .error (helpTopic rest)
      | some topic => do
        let found ← take topic {} rest
        match found.command? topic with
        | some command => .ok command
        | none => .error .misuse
      | none => .error .misuse
    | _ => .error .misuse

end LocalizedMail.CommandLine

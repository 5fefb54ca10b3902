/-!
# Help texts

What the program prints when it is asked for help.  A text names what a command does, how it is
called, its arguments and its options; descriptions stand in one column.
-/

namespace LocalizedMail.CommandLine

/-- The name of the program. -/
def programName : String := "ara-mailer"

/-- The version of the program. -/
def version : String := "1.0.0"

/-- The things that help can be asked about. -/
inductive Topic where
  | program
  | render
  | info
  | list
  | send
  | help
  deriving DecidableEq, Repr

namespace Topic

/-- The commands, in the order in which they are listed. -/
def commands : List Topic := [render, info, list, send, help]

/-- What a command is called by. -/
def name : Topic → String
  | program => programName
  | render => "render"
  | info => "info"
  | list => "list"
  | send => "send"
  | help => "help"

/-- The command of a name. -/
def ofName? (s : String) : Option Topic := commands.find? fun t => t.name = s

/-- What a command does. -/
def about : Topic → String
  | program => "Render and send localized mail templates"
  | render => "Render a template to stdout"
  | info => "Show where a template resolves"
  | list => "List templates available for a language"
  | send => "Render a template and deliver it over SMTP"
  | help => "Print this message or the help of the given subcommand(s)"

/-- How a command is called. -/
def usage : Topic → String
  | program => programName ++ " <COMMAND>"
  | render => programName ++ " render [OPTIONS] <NAME>"
  | info => programName ++ " info [OPTIONS] <NAME>"
  | list => programName ++ " list [OPTIONS]"
  | send => programName ++ " send [OPTIONS] --to <TO> <NAME>"
  | help => programName ++ " help [COMMAND]..."

/-- The arguments of a command and what they are. -/
def arguments : Topic → List (String × String)
  | program | list => []
  | render | info | send => [("<NAME>", "")]
  | help => [("[COMMAND]...", "Print help for the subcommand(s)")]

/-- The option that names a language. -/
def langOption : String × String := ("    --lang <LANG>", "")

/-- The option that asks for help. -/
def helpOption : String × String := ("-h, --help", "Print help")

/-- The options of a command and what they are. -/
def options : Topic → List (String × String)
  | program => [helpOption, ("-V, --version", "Print version")]
  | render =>
    [langOption, ("    --var <VARS>", "Placeholder value, KEY=VALUE (repeatable)"), helpOption]
  | info | list => [langOption, helpOption]
  | send =>
    [("    --to <TO>", ""), ("    --cc <CC>", ""), ("    --bcc <BCC>", ""), langOption,
      ("    --var <VARS>", ""),
      ("    --attempts <ATTEMPTS>", "Delivery attempts; defaults to the configured maximum"),
      helpOption]
  | help => []

/-- Entries with their descriptions in one column. -/
def column (title : String) (entries : List (String × String)) : String :=
  if entries.isEmpty then ""
  else
    let width := (entries.map fun e => e.1.length).foldl max 0
    let line (e : String × String) : String :=
      "  " ++ e.1 ++ String.ofList (List.replicate (width - e.1.length + 2) ' ') ++ e.2 ++ "\n"
    "\n" ++ title ++ ":\n" ++ String.join (entries.map line)

/-- The help on a topic. -/
def text (t : Topic) : String :=
  t.about ++ "\n\nUsage: " ++ t.usage ++ "\n" ++
    column "Commands" (if t = program then commands.map fun c => (c.name, c.about) else []) ++
    column "Arguments" t.arguments ++ column "Options" t.options

end Topic

end LocalizedMail.CommandLine

import LocalizedMail.CommandLine.Arguments
import LocalizedMail.Report
import LocalizedMail.Settings.Locate
import LocalizedMail.Smtp.Client

/-!
# The program

A run of the program is a function of its mail library and of what it meets: its arguments, its
environment, its working directory, the mail server and the year.  It prints, reports events, and
ends well or with a complaint.

Settings are found before anything else is done; then an engine is created and all subject lines are
read, whatever the command is.  A mail that could not be delivered is printed like one that was, and
complained about afterwards.
-/

namespace LocalizedMail.Program

open CommandLine (Command Refusal)

/-! ## §1. Complaints -/

/-- What a run complains about: a text, and the causes behind it. -/
structure Complaint where
  text : String
  causes : List String := []
  deriving DecidableEq, Repr

/-- The cause behind the failure of a template operation. -/
def causesOf : Template.Fault → List String
  | .storage fault => [fault.message]
  | _ => []

/-- The complaint about a template operation. -/
def Complaint.ofTemplate (f : Template.Fault) : Complaint := ⟨f.message, causesOf f⟩

/-- The complaint about a mail. -/
def Complaint.ofMail (f : Mail.Fault) : Complaint :=
  match f with
  | .template fault => ⟨f.message, fault.message :: causesOf fault⟩
  | _ => ⟨f.message, []⟩

/-- A text whose lines after the first are indented. -/
def indented (blanks : String) (s : String) : String :=
  String.intercalate ("\n" ++ blanks) (Text.cut '\n' s)

/-- Causes with numbers. -/
def numbered (n : Nat) : List String → String
  | [] => ""
  | cause :: rest => "\n    " ++ toString n ++ ": " ++ indented "       " cause ++ numbered (n + 1) rest

/-- A complaint as it is printed. -/
def Complaint.report (c : Complaint) : String :=
  "Error: " ++ c.text ++
    (match c.causes with
    | [] => ""
    | [cause] => "\n\nCaused by:\n    " ++ indented "    " cause
    | causes => "\n\nCaused by:" ++ numbered 0 causes) ++ "\n"

/-! ## §2. Runs -/

/-- What a run meets. -/
structure Situation where
  arguments : List String
  environment : Table String String
  disk : FileTree
  server : Smtp.Server
  year : String

/-- What a run has done so far. -/
structure Progress where
  output : String := ""
  events : List Event := []
  /-- what was done to the mail server -/
  seen : List Smtp.Move := []

/-- A part of a run, which may end it with a complaint. -/
abbrev Run := ExceptT Complaint (StateM Progress)

/-- Prints a line. -/
def printLine (s : String) : Run Unit :=
  modify fun p => { p with output := p.output ++ s ++ "\n" }

/-- Reports events. -/
def report (events : List Event) : Run Unit :=
  modify fun p => { p with events := p.events ++ events }

/-- A result, or the complaint about it. -/
def orComplain {ε α : Type} (complaint : ε → Complaint) : Except ε α → Run α
  | .ok a => pure a
  | .error e => throw (complaint e)

/-- The result of an operation whose events are reported. -/
def reported {ε α σ : Type} (complaint : ε → Complaint) (step : Step (Except ε α) σ) :
    Run (α × σ) := do
  report step.events
  let a ← orComplain complaint step.result
  pure (a, step.state)

/-! ## §3. Commands -/

/-- Values of placeholders, a later one of the same name replacing an earlier one. -/
def variablesOf (values : List (String × String)) : Placeholder.Variables :=
  .ofList (values.map fun v => (v.1, .text v.2))

/-- Sends a mail and prints the outcome. -/
def send (lib : Smtp.Library) (s : Situation) (settings : Settings) (engine : Template.Engine)
    (request : Mail.Request) (attempts : Option Nat) : Run Unit := do
  let (client, state) ← orComplain (fun f => ⟨f.message, []⟩)
    (Smtp.Client.ofSettings lib settings.smtp)
  report [.transportReady settings.smtp.host settings.smtp.port settings.smtp.tls]
  let mailer : Mail.Mailer (Smtp.Line lib) :=
    { engine, retry := settings.retry, link := { state, server := s.server } }
  let step := mailer.sendWithRetry s.disk client.transport request
    (attempts.getD settings.retry.maxAttempts)
  modify fun p => { p with seen := step.state.link.seen }
  let (outcome, _) ← reported Complaint.ofMail step
  printLine (Report.outcome outcome).pretty
  if !outcome.success then
    throw ⟨"delivery failed after " ++ toString outcome.attempts ++ " attempt(s)", []⟩

/-- Carries out a command. -/
def carryOut (lib : Smtp.Library) (s : Situation) (settings : Settings)
    (engine : Template.Engine) : Command → Run Unit
  | .render name lang values => do
    let step := engine.renderText s.disk name (lang.getD "") (variablesOf values)
    let (text, _) ← reported Complaint.ofTemplate step
    printLine text
  | .info name lang => do
    let info ← orComplain Complaint.ofTemplate (engine.store.info s.disk name (lang.getD ""))
    printLine (Report.info info).pretty
  | .list lang => do
    let names ← orComplain Complaint.ofTemplate (engine.store.list s.disk (lang.getD ""))
    names.forM printLine
  | .send name addressees cc bcc lang values attempts =>
    send lib s settings engine
      { template := name, lang := lang.getD "", values := variablesOf values
        envelope := { addressees, cc, bcc } } attempts

/-- Finds the settings, makes an engine, reads all subject lines, and carries out a command. -/
def perform (lib : Smtp.Library) (s : Situation) (command : Command) : Run Unit := do
  let settings ← orComplain (fun f => ⟨f.message, []⟩) (Settings.find s.disk s.environment)
  report [.loggingReady settings.logging.format, .settingsLoaded]
  let engine ← orComplain Complaint.ofTemplate (Template.Engine.create settings.templates s.year)
  report [engine.ready]
  let (count, engine) ← reported Complaint.ofTemplate (engine.readSubjectFiles s.disk)
  report [.subjectsLoaded count]
  carryOut lib s settings engine command

/-! ## §4. Ends -/

/-- How a run ended. -/
structure Ending where
  /-- zero if all went well, one after a complaint, two if the arguments were no good -/
  code : Nat
  output : String
  /-- what is printed apart from the output -/
  complaint : String
  events : List Event
  /-- what was done to the mail server -/
  seen : List Smtp.Move

/-- A run of the program. -/
def run (lib : Smtp.Library) (s : Situation) : Ending :=
  match CommandLine.parse s.arguments with
  | .error (.help topic) => ⟨0, topic.text, "", [], []⟩
  | .error .version =>
    ⟨0, CommandLine.programName ++ " " ++ CommandLine.version ++ "\n", "", [], []⟩
  | .error .misuse => ⟨2, "", CommandLine.Topic.program.text, [], []⟩
  | .ok command =>
    match (perform lib s command).run.run {} with
    | (.ok (), p) => ⟨0, p.output, "", p.events, p.seen⟩
    | (.error complaint, p) => ⟨1, p.output, complaint.report, p.events, p.seen⟩

end LocalizedMail.Program

import LocalizedMail.Log
import LocalizedMail.Text.Alphanumeric

/-!
# Which log lines are written

A filter is a list of directives with commas between them.  A directive sets the least serious level
that is written (`warn`), for all parts of the program or, with a name and an equals sign in front
(`mail::store=off`), for the parts whose names begin with that name.  Of the directives that concern
a line, the one with the longest name decides, and of two with the same name the later one; a line
that none concerns is not written.

  * A level is a name in letters of either case, or its number from 1 (`error`) to 5 (`trace`);
    `off` or 0 stands for no level at all.  A name without a level asks for everything.
  * A directive with square brackets concerns stretches of work, which this program does not mark.
  * One directive that cannot be read makes the whole filter unreadable.
-/

namespace LocalizedMail.Log

/-! ## §1. Thresholds -/

/-- The least serious level that is written, if anything is. -/
abbrev Threshold := Option Level

namespace Threshold

/-- The threshold of a number. -/
def ofNumber? : Nat → Option Threshold
  | 0 => some none
  | 1 => some (some .error)
  | 2 => some (some .warn)
  | 3 => some (some .info)
  | 4 => some (some .debug)
  | 5 => some (some .trace)
  | _ => none

/-- The number that digits spell, perhaps with a plus sign in front. -/
def number? (cs : List Char) : Option Nat :=
  let digits := if cs.head? = some '+' then cs.tail else cs
  if digits.isEmpty || !digits.all Char.isDigit then none
  else some (digits.foldl (fun n c => n * 10 + (c.toNat - '0'.toNat)) 0)

/-- The threshold that a name or a number spells. -/
def read? (cs : List Char) : Option Threshold :=
  match number? cs with
  | some n => ofNumber? n
  | none =>
    if cs.map Char.toLower = "off".toList then some none
    else (Level.ofName? (String.ofList cs)).map some

/-- The threshold that a text spells, if any; no text asks for everything. -/
def readOrAll? (cs : List Char) : Option Threshold :=
  if cs.isEmpty then some (some .trace) else read? cs

end Threshold

/-! ## §2. Directives -/

/-- A part of a filter. -/
inductive Directive where
  /-- lines of the parts of the program whose names begin with `target` -/
  | lines (target : List Char) (threshold : Threshold)
  /-- stretches of work -/
  | spans
  deriving DecidableEq, Repr

namespace Directive

/-- What follows the description of stretches of work: nothing, or a threshold. -/
def afterSpans? : List Char → Option Directive
  | [] => some .spans
  | '=' :: level => (Threshold.readOrAll? level).map fun _ => .spans
  | _ => none

/-- A description of stretches of work whose opening bracket has been passed: a name, and fields
between braces. -/
def spans? (cs : List Char) : Option Directive :=
  match cs.dropWhile (fun c => c != ']' && c != '\x7b') with
  | ']' :: rest => afterSpans? rest
  | '\x7b' :: rest =>
    match rest.takeWhile (· != '\x7d'), rest.dropWhile (· != '\x7d') with
    | _ :: _, '\x7d' :: ']' :: rest => afterSpans? rest
    | _, _ => none
  | _ => none

/-- Whether a directive may begin with a character, brackets apart. -/
def isInitial (c : Char) : Bool :=
  Text.isAlphanumeric c || c == '-' || c == ':' || c == '_'

/-- The directive that a text spells.  Blanks at its ends belong to its name or level, which then is
the name of no part of the program or no level; before an equals sign they are not read at all. -/
def read? (text : List Char) : Option Directive :=
  match Text.trimChars text with
  | [] => none
  | '[' :: rest => spans? rest
  | c :: cs =>
    if !isInitial c then none
    else
      match cs.dropWhile (fun d => d != '=' && d != '[') with
      | [] =>
        match Threshold.read? text with
        | some t => some (.lines [] t)
        | none => some (.lines text (some .trace))
      | '[' :: rest => spans? rest
      | _ =>
        if text.head?.any Text.isBlank then none
        else
          (Threshold.readOrAll? ((text.dropWhile (· != '=')).drop 1)).map
            (.lines (text.takeWhile (· != '=')))

/-- How long the name of a directive is, if the directive concerns a part of the program. -/
def reach? (d : Directive) (speaker : Speaker) : Option Nat :=
  match d with
  | .lines target _ =>
    if target.isPrefixOf speaker.target.toList then some target.length else none
  | .spans => none

/-- Whether a directive lets a line pass. -/
def passes (d : Directive) (l : Line) : Bool :=
  match d with
  | .lines _ (some least) => least.rank ≤ l.level.rank
  | _ => false

end Directive

/-! ## §3. Filters -/

/-- The directives that decide which lines are written. -/
abbrev Filter := List Directive

namespace Filter

/-- The filter that writes lines from a level on. -/
def atLeast (least : Level) : Filter := [.lines [] (some least)]

/-- The filter that a text spells; one without directives writes errors. -/
def read? (text : String) : Option Filter :=
  let directives := (Text.cut ',' text).filter (· ≠ "")
  if directives.isEmpty then some (atLeast .error)
  else directives.mapM fun d => Directive.read? d.toList

/-- The filter of a variable; where there is none, or none that can be read, what is worth knowing is
written. -/
def ofVariable (value : Option String) : Filter :=
  (value.bind read?).getD (atLeast .info)

/-- The directive that decides about a part of the program. -/
def deciding? (f : Filter) (speaker : Speaker) : Option Directive :=
  f.foldl
    (fun best d =>
      match d.reach? speaker with
      | none => best
      | some n => if (best.bind (·.reach? speaker)).getD 0 ≤ n then some d else best)
    none

/-- Whether a line is written. -/
def admits (f : Filter) (l : Line) : Bool :=
  (f.deciding? l.speaker).any (·.passes l)

end Filter

/-- The lines of events that are written. -/
def lines (f : Filter) (events : List Event) : List Line :=
  (events.filterMap line?).filter f.admits

end LocalizedMail.Log

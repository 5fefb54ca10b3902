import LocalizedMail.Event

/-!
# Metrics

Counters are views of the events that operations report: what a list of events adds to a counter is
the sum of what each event adds.  Some counters share a name and differ in a label.

  * `Counter.increase` and `Counter.count` say what events add; `count_append` adds up;
  * `exposition` lists the published series, with their descriptions, in order of their names.
-/

namespace LocalizedMail

/-! ## §1. Counters -/

/-- Why a mail was not delivered, as far as counting goes. -/
inductive FailureReason where
  /-- its template could not be rendered -/
  | template
  /-- its transport refused it or could not be reached -/
  | transport
  deriving DecidableEq, Repr

/-- What is counted. -/
inductive Counter where
  | retries
  | mailsFailed (reason : FailureReason)
  | mailsSent
  /-- bodies served from a tier -/
  | loads (tier : Tier)
  /-- placeholders without a value -/
  | missingValues
  /-- lookups that found nothing -/
  | notFound
  | renderings
  deriving DecidableEq, Repr

namespace Counter

/-- What one event adds to a counter. -/
def increase (c : Counter) (e : Event) : Nat :=
  match c, e with
  | .retries, .retrying _ _ => 1
  | .mailsFailed .template, .composeFailed _ _ => 1
  | .mailsFailed .transport, .failed => 1
  | .mailsFailed .transport, .sendFailed _ => 1
  | .mailsSent, .sent _ _ => 1
  | .loads t, .served u => if t = u then 1 else 0
  | .missingValues, .rendered n => n
  | .notFound, .notFound => 1
  | .renderings, .rendered _ => 1
  | _, _ => 0

/-- What events add to a counter. -/
def count (c : Counter) : List Event → Nat
  | [] => 0
  | e :: es => c.increase e + count c es

@[simp] theorem count_nil (c : Counter) : c.count [] = 0 := rfl

@[simp] theorem count_cons (c : Counter) (e : Event) (es : List Event) :
    c.count (e :: es) = c.increase e + c.count es := rfl

@[simp] theorem count_append (c : Counter) (es fs : List Event) :
    c.count (es ++ fs) = c.count es + c.count fs := by
  induction es with
  | nil => simp
  | cons e es ih => simp [ih, Nat.add_assoc]

end Counter

/-! ## §2. Published series -/

/-- A name with a label. -/
def labelled (name label value : String) : String :=
  name ++ "\x7b" ++ label ++ "=\"" ++ value ++ "\"\x7d"

/-- The value of the label that tells tiers apart. -/
def Tier.label : Tier → String
  | .memory => "memory"
  | .cache => "cache"
  | .disk => "disk"

/-- The value of the label that tells reasons apart. -/
def FailureReason.label : FailureReason → String
  | .template => "template"
  | .transport => "transport"

/-- The series that a counter is published as. -/
def Counter.series : Counter → String
  | .retries => "ara_mailer_mail_retries_total"
  | .mailsFailed reason => labelled "ara_mailer_mails_failed_total" "reason" reason.label
  | .mailsSent => "ara_mailer_mails_sent_total"
  | .loads tier => labelled "ara_mailer_template_loads_total" "origin" tier.label
  | .missingValues => "ara_mailer_template_missing_variables_total"
  | .notFound => "ara_mailer_template_not_found_total"
  | .renderings => "ara_mailer_template_render_duration_seconds_count"

/-- All counters, in order of their series. -/
def Counter.all : List Counter := [
  .retries, .mailsFailed .template, .mailsFailed .transport, .mailsSent,
  .loads .cache, .loads .disk, .loads .memory, .missingValues, .notFound, .renderings]

/-- The value of every series after a list of events. -/
def counts (events : List Event) : List (String × Nat) :=
  Counter.all.map fun c => (c.series, c.count events)

/-- Series of one name, with a description. -/
structure Family where
  name : String
  help : String
  kind : String
  series : List String

/-- The upper bounds of the buckets into which the durations of renderings fall. -/
def durationBounds : List String := ["0.0001", "0.0005", "0.001", "0.005", "0.01", "0.05", "0.1", "+Inf"]

/-- The published families, in order of their names. -/
def families : List Family := [
  ⟨"ara_mailer_mail_retries_total", "Total delivery retries", "counter", [Counter.retries.series]⟩,
  ⟨"ara_mailer_mails_failed_total", "Total mails that could not be delivered", "counter",
    [Counter.series (.mailsFailed .template), Counter.series (.mailsFailed .transport)]⟩,
  ⟨"ara_mailer_mails_sent_total", "Total mails accepted by the transport", "counter",
    [Counter.mailsSent.series]⟩,
  ⟨"ara_mailer_template_loads_total", "Total template bodies served by origin", "counter",
    [Counter.series (.loads .cache), Counter.series (.loads .disk),
      Counter.series (.loads .memory)]⟩,
  ⟨"ara_mailer_template_missing_variables_total", "Total placeholders rendered without a value",
    "counter", [Counter.missingValues.series]⟩,
  ⟨"ara_mailer_template_not_found_total", "Total template lookups with no match", "counter",
    [Counter.notFound.series]⟩,
  ⟨"ara_mailer_template_render_duration_seconds", "Template render duration in seconds",
    "histogram",
    durationBounds.map (labelled "ara_mailer_template_render_duration_seconds_bucket" "le") ++
      ["ara_mailer_template_render_duration_seconds_sum", Counter.renderings.series]⟩]

/-- The lines of a family, those with a value given without it. -/
def Family.lines (f : Family) : List String :=
  ("# HELP " ++ f.name ++ " " ++ f.help) :: ("# TYPE " ++ f.name ++ " " ++ f.kind) :: f.series

/-- The lines in which all series are published, those with a value given without it. -/
def exposition : List String := families.flatMap Family.lines

end LocalizedMail

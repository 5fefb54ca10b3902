import LocalizedMail.Mail.Mailer

/-!
# Reports

How results are written as data documents.  A field that has nothing to say is left out.
-/

namespace LocalizedMail.Report

/-- A list of texts. -/
def texts (items : List String) : Json := .list (items.map .text)

/-- A field, unless it has nothing to say. -/
def optionalField (name : String) : Option Json → List (String × Json)
  | some j => [(name, j)]
  | none => []

/-- A list of texts as a field, unless it is empty. -/
def listField (name : String) (items : List String) : List (String × Json) :=
  if items.isEmpty then [] else [(name, texts items)]

/-- Where a template resolves. -/
def info (i : Template.Store.Info) : Json :=
  .object <| [("name", .text i.name), ("lang", .text i.lang), ("exists", .bool i.exists),
    ("origin", .text i.origin), ("cached", .bool i.cached)] ++
    optionalField "path" (i.path?.map .text)

/-- The receipt of a delivery. -/
def receipt (r : Mail.Receipt) : Json :=
  .object [("recipients", texts r.recipients), ("response", .text r.response)]

/-- How a delivery with retries ended. -/
def outcome (o : Mail.Outcome) : Json :=
  .object <| [("recipients", texts o.recipients), ("success", .bool o.success),
    ("attempts", .whole o.attempts)] ++
    match o.result with
    | .ok r => [("receipt", receipt r)]
    | .error fault => [("error", .text fault.message)]

/-- How a bulk send ended. -/
def bulk (r : Mail.BulkReport) : Json :=
  .object [("total", .whole r.total), ("sent", .whole r.sent), ("failed", .whole r.failed),
    ("outcomes", .list (r.outcomes.map outcome))]

/-- An envelope. -/
def envelope (e : Mail.Envelope) : Json :=
  .object <| [("to", texts e.addressees)] ++ optionalField "from" (e.sender.map .text) ++
    listField "cc" e.cc ++ listField "bcc" e.bcc ++ optionalField "reply_to" (e.replyTo.map .text)

/-- A letter. -/
def letter (l : Mail.Letter) : Json :=
  .object <| [("envelope", envelope l.envelope), ("subject", .text l.subject),
    ("html", .text l.html)] ++ optionalField "text" (l.text.map .text)

/-- What a mailer has done so far. -/
def stats (s : Mail.Stats) : Json :=
  .object [("total_sent", .whole s.sent), ("total_failed", .whole s.failed),
    ("total_retries", .whole s.retries), ("template_errors", .whole s.templateErrors)]

/-- The body and the subject line of a mail. -/
def composed (c : Template.Engine.Composed) : Json :=
  .object <| [("html", .text c.html), ("subject", .text c.subject), ("lang", .text c.lang)] ++
    listField "missing" c.missing

/-- A text with the names of the values that are missing from it. -/
def rendered (r : Placeholder.Rendered) : Json :=
  .object [("output", .text r.output), ("missing", texts r.missing)]

end LocalizedMail.Report

import LocalizedMail.Mail.Transport
import LocalizedMail.Settings.Fault
import LocalizedMail.Template.Fault

/-!
# Why a mail was not sent

A mail fails because of its settings, its template or its delivery.  Every failure has a wording and
a short code for reports, and only a transient delivery failure is worth another attempt: templates
do not change while a program runs.
-/

namespace LocalizedMail.Mail

/-- Why a mail was not sent. -/
inductive Fault where
  | settings (fault : Settings.Fault)
  | template (fault : Template.Fault)
  | delivery (fault : DeliveryFault)
  deriving DecidableEq, Repr

namespace Fault

/-- A failure in words. -/
def message : Fault → String
  | .settings fault => "Configuration error: " ++ fault.message
  | .template fault => "Template error: " ++ fault.message
  | .delivery fault => "Transport error: " ++ fault.message

/-- The code of a failure. -/
def code : Fault → String
  | .settings _ => "CONFIG_ERROR"
  | .template (.invalidName _) => "INVALID_TEMPLATE_NAME"
  | .template (.notFound _ _) => "TEMPLATE_NOT_FOUND"
  | .template (.missingValues _) => "MISSING_VARIABLE"
  | .template _ => "TEMPLATE_ERROR"
  | .delivery fault => if fault.isRetryable then "TRANSPORT_TRANSIENT" else "TRANSPORT_ERROR"

/-- Whether another attempt may succeed. -/
def isRetryable : Fault → Bool
  | .delivery fault => fault.isRetryable
  | _ => false

end Fault

end LocalizedMail.Mail

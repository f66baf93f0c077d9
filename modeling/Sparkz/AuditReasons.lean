import Sparkz.AuditPresentation

namespace Sparkz

open Utf16 UnitTexts

/-!
# The reason shown for an audit event

The type of an event decides its category and the reason that is shown.  Apart
from the message of a rejected identity and the name of a movement outcome,
every reason is a fixed sentence.
-/

/-- A presentation with a reason. -/
def explained
    (category : AuditPresentationCategory)
    (reasonLabel reason : JsString)
    (guidance : Option JsString)
    (details : List AuditPresentationDetail) :
    AuditPresentation where
  category := category
  reasonLabel := some reasonLabel
  reason := some reason
  guidance := guidance
  details := details

/-- An operational presentation. -/
def operational :=
  explained .operational

/--
What a failed operation shows of its movement outcome, or else what it shows
without one.
-/
def movementPresentation
    (data : MetadataRecord)
    (details : List AuditPresentationDetail)
    (uncertain : AuditPresentation) :
    AuditPresentation :=
  match safeText (data.firstOf ["movementOutcome", "movement_outcome"]) 60 with
  | none => uncertain
  | some movementOutcome =>
      if movementOutcome = jsString "no_movement" then
        operational "Movement outcome"
          "The backend recorded that no token movement occurred for this attempt."
          (some "A fresh action may use a new request key after this explicit no-movement result.")
          details
      else if
          movementOutcome ≠ jsString "unknown" ∧
            movementOutcome ≠ jsString "review" then
        operational "Movement outcome"
          (jsString "The backend recorded a " ++ movementOutcome ++
            jsString " token movement outcome. Check the existing transaction and receipt before announcing completion.")
          (some "Preserve the original request and transaction hash while projection or receipt recovery is checked.")
          details
      else
        uncertain

/-- Why the delivery of an alert was skipped. -/
def skippedReason (value : AuditValue) : JsString :=
  if value.isText "admin_email_not_configured" then
    "The admin alert email is not configured; this event was audited but no external alert was sent."
  else if value.isText "admin_alert_webhook_not_configured" then
    "The admin alert webhook is not configured; this event was audited but no external alert was sent."
  else
    "Alert delivery was skipped; this event was audited but no external alert was sent."

/-- The event of an award or a spend that failed. -/
def isSettlementFailure (type : JsString) : Bool :=
  type = jsString "award.failed" || type = jsString "spend.failed" ||
    (includes type (jsString "unhandled_error") &&
      (startsWith type (jsString "award.") ||
        startsWith type (jsString "spend.")))

/-- The presentation of an event whose identity was not rejected. -/
def presentType
    (type status : JsString)
    (data : MetadataRecord)
    (details : List AuditPresentationDetail) :
    AuditPresentation :=
  if type = jsString "admin_alert.delivery_skipped" then
    explained .alert "Alert delivery" (skippedReason (data.get "reason"))
      (some "Configure the admin alert email and webhook if external delivery is required.")
      details
  else if type = jsString "admin_alert.delivery_failed" then
    explained .alert "Alert delivery error"
      "Alert delivery failed after the event was recorded. Check alert configuration and delivery service health."
      none details
  else if
      type = jsString "admin_alert.delivered" ∨
        type = jsString "admin_alert.test_requested" then
    explained .alert "Alert delivery"
      (if type = jsString "admin_alert.delivered" then
        "The alert was delivered to the configured alert endpoint."
      else
        "The alert test request was recorded; inspect the related delivery event for its result.")
      none details
  else if type = jsString "treasury.gas_check_failed" then
    operational "Operational detail"
      "The treasury RPC/gas check failed. Check provider health and treasury funding."
      (some "Do not treat this as a CDR validation failure.") details
  else if type = jsString "treasury.gas_low" then
    operational "Operational detail"
      "The treasury gas balance is below the configured threshold."
      none details
  else if
      type = jsString "spend_receipt.persistence_failed" ∨
        (includes type (jsString "receipt") ∧
          includes type (jsString "failed")) then
    operational "Receipt recovery status"
      "Receipt confirmation is pending. Check the existing transaction before retrying."
      (some "Preserve the original request and transaction hash while recovery is investigated.")
      details
  else if
      type = jsString "spend.reservation_recovery_pending" ∨
        includes type (jsString "recovery_pending") then
    operational "Recovery detail"
      "Settlement recovery is pending. Check the existing transaction before retrying."
      none details
  else if type = jsString "operator.recovery_confirmed_unprojected" then
    operational "Award recovery review"
      "The award movement is confirmed on chain, but the original CDR is unavailable. No award projection was written; do not resend."
      (some "Obtain the original CDR or an exact fingerprint-matching reconstruction before projecting the award.")
      details
  else if type = jsString "operator.recovery_projected" then
    operational "Recovery completed"
      "The verified token movement was projected into the ledger and receipt state."
      (some "Do not resend the transaction. Review any reported balance reconciliation mismatch separately.")
      details
  else if isSettlementFailure type then
    movementPresentation data details
      (operational "Transaction recovery status"
        "Transaction confirmation is pending or uncertain. Check the existing transaction before retrying."
        (some "Preserve the original request and transaction hash while recovery is investigated.")
        details)
  else if type = jsString "spend.custodial_failed" then
    operational "Recovery detail"
      "The wallet spend outcome is not final. Check or recover an existing transaction before signing again."
      none details
  else if type = jsString "admin.login_succeeded" then
    explained .authentication "Authentication detail"
      "Admin authentication succeeded." none details
  else if
      includes type (jsString "validation_failed") ∨
        endsWith type (jsString ".identity_missing") then
    if endsWith type (jsString ".identity_missing") then
      explained .identity "Identity requirement"
        "The request did not contain the required eMAID identity."
        none details
    else
      explained .validation "Request validation reason"
        (reasonForValidation (data.get "reason")) none details
  else if
      type = jsString "auth.ingest_key_rejected" ∨
        type = jsString "admin.login_failed" ∨
        type = jsString "admin.login_unconfigured" then
    explained .authentication "Authentication detail"
      (if type = jsString "admin.login_unconfigured" then
        "Admin authentication is not configured."
      else
        "An authentication attempt was rejected or failed.")
      none details
  else if
      type = jsString "reconciliation.balance_run" ∧
        (status = jsString "mismatch" ∨ status = jsString "error") then
    operational "Reconciliation detail"
      "A reconciliation mismatch or error was recorded. Inspect the reconciliation report."
      none details
  else if
      includes type (jsString ".failed") ∨
        includes type (jsString "unhandled_error") then
    movementPresentation data details
      (operational "Recovery detail"
        "The operation failed or needs recovery. Preserve the original request while its outcome is checked."
        none details)
  else
    { category := .activity
      reasonLabel := none
      reason := none
      guidance := none
      details := details }

/-- The presentation of an event, unless reading its nonce throws. -/
def presentAuditEvent (event : AuditPresentationEvent) :
    Option AuditPresentation :=
  let data := event.data
  let identity :=
    identityDetails [] (data.get "normalisation").asRecord
      (data.get "normalisationError").asRecord
  (addCorrelationDetails identity.details event data).map fun details =>
    if identity.structuredError then
      explained .identity "Validation / quarantine reason"
        (identity.message.getD
          "The CDR identity could not be normalised safely.")
        (some "Reject or quarantine this record until the eMAID identity is corrected.")
        details
    else
      presentType event.type event.statusText data details

end Sparkz

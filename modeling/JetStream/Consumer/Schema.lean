import JetStream.Consumer.Config
import JetStream.Log
import JetStream.Subject

/-!
# The schema of configurations

The rules of the broker for the document of a configuration.  A member of the wrong type is taken as
missing.  Violations are listed in the order of the rules.
-/

namespace JetStream.Consumer

open Text

/-- A rule that a document breaks. -/
inductive Violation where
  /-- A document holds members. -/
  | notObject
  /-- A name is one word without points and wildcards. -/
  | illegalName
  /-- Messages are pushed to a subject. -/
  | invalidDeliverSubject (subject : String)
  /-- Messages are pushed to a single subject. -/
  | deliverSubjectWildcard
  /-- A filter is a subject. -/
  | invalidFilterSubject (subject : String)
  /-- Only two policies go with a sequence or a time to start from. -/
  | startNotAllowed (policy : String)
  /-- The sequence to start from is positive. -/
  | startSequenceMissing
  /-- The time to start from is given. -/
  | startTimeMissing
  /-- There is such a deliver policy. -/
  | unknownDeliverPolicy (policy : String)
  /-- There is such an acknowledgement policy. -/
  | unknownAckPolicy (policy : String)
  /-- There is such a replay policy. -/
  | unknownReplayPolicy (policy : String)
  /-- Deliveries are limited by a count, or by -1 not at all. -/
  | maxDeliverTooSmall
  /-- Unacknowledged messages are limited by a count. -/
  | maxAckPendingNegative
  /-- A share is a percentage. -/
  | invalidSample (text : String)
  /-- Only what is pushed has a rate. -/
  | rateLimitOnPull
  /-- Nobody could pull from a consumer without a name. -/
  | ephemeralPull
  deriving DecidableEq

/-- What the operator is told. -/
def Violation.message : Violation → String
  | notObject => "configuration must be an object"
  | illegalName => "durable_name: can not contain '.', '*', '>' or whitespace"
  | invalidDeliverSubject subject =>
      "deliver_subject: '" ++ subject ++ "' is not a valid subject"
  | deliverSubjectWildcard => "deliver_subject: can not contain wildcards"
  | invalidFilterSubject subject =>
      "filter_subject: '" ++ subject ++ "' is not a valid subject"
  | startNotAllowed policy =>
      "deliver_policy: " ++ policy ++ " can not be combined with a start sequence or time"
  | startSequenceMissing => "opt_start_seq: must be at least 1 for by_start_sequence"
  | startTimeMissing => "opt_start_time: is required for by_start_time"
  | unknownDeliverPolicy policy => "deliver_policy: '" ++ policy ++ "' is not a valid policy"
  | unknownAckPolicy policy => "ack_policy: '" ++ policy ++ "' is not a valid policy"
  | unknownReplayPolicy policy => "replay_policy: '" ++ policy ++ "' is not a valid policy"
  | maxDeliverTooSmall => "max_deliver: must be -1 or greater"
  | maxAckPendingNegative => "max_ack_pending: must be 0 or greater"
  | invalidSample text => "sample_freq: '" ++ text ++ "' is not a percentage between 0 and 100"
  | rateLimitOnPull => "rate_limit_bps: rate limits are only possible on push consumers"
  | ephemeralPull => "deliver_subject: ephemeral consumers must be push-based"

namespace Schema

/-- The violation, if there is a fault. -/
def violationIf (fault : Bool) (violation : Violation) : List Violation :=
  if fault then [violation] else []

/-- What the rules say about a member that is a text. -/
def aboutText (document : Json) (name : String) (rule : String → List Violation) :
    List Violation :=
  match (document.member? name).bind Json.asString? with
  | some text => rule text
  | none => []

/-- What the rules say about a member that is a signed number. -/
def aboutNumber (document : Json) (name : String) (rule : Int → List Violation) :
    List Violation :=
  match (document.member? name).bind Json.asSigned64? with
  | some n => rule n
  | none => []

/-- The character must not be in a name. -/
def isIllegalInName (c : Char) : Bool :=
  c = '.' || c = '*' || c = '>' || isBlank c

/-- The rule for names. -/
def nameRule (document : Json) : List Violation :=
  aboutText document "durable_name" fun name =>
    violationIf (name.toList.any isIllegalInName) .illegalName

/-- The rules for subjects. -/
def subjectRules (document : Json) : List Violation :=
  (aboutText document "deliver_subject" fun subject =>
    if !Subject.isWellFormed subject then [.invalidDeliverSubject subject]
    else violationIf (Subject.hasWildcard subject) .deliverSubjectWildcard) ++
  aboutText document "filter_subject" fun subject =>
    violationIf (!Subject.isWellFormed subject) (.invalidFilterSubject subject)

/-- The rule for where to start. -/
def startRule (document : Json) : List Violation :=
  let policy := ((document.member? "deliver_policy").bind Json.asString?).getD "all"
  if ["all", "last", "new", "last_per_subject"].contains policy then
    violationIf
      ((document.member? "opt_start_seq").isSome || (document.member? "opt_start_time").isSome)
      (.startNotAllowed policy)
  else if policy = "by_start_sequence" then
    let sequence := (document.member? "opt_start_seq").bind Json.asUnsigned64?
    violationIf (!sequence.any (0 < ·)) .startSequenceMissing
  else if policy = "by_start_time" then
    let start := (document.member? "opt_start_time").bind Json.asString?
    violationIf start.isNone .startTimeMissing
  else [.unknownDeliverPolicy policy]

/-- The rules for policies. -/
def policyRules (document : Json) : List Violation :=
  startRule document ++
  (aboutText document "ack_policy" fun policy =>
    violationIf (AckPolicy.ofWireName? policy).isNone (.unknownAckPolicy policy)) ++
  aboutText document "replay_policy" fun policy =>
    violationIf (ReplayPolicy.ofWireName? policy).isNone (.unknownReplayPolicy policy)

/-- The text denotes a percentage, with or without percent signs behind it. -/
def isPercentage (text : String) : Bool :=
  (unsigned? 0xffff_ffff (Sample.dropPercent text)).any (· ≤ 100)

/-- The rules for limits. -/
def limitRules (document : Json) : List Violation :=
  (aboutNumber document "max_deliver" fun n => violationIf (n < -1) .maxDeliverTooSmall) ++
  (aboutNumber document "max_ack_pending" fun n => violationIf (n < 0) .maxAckPendingNegative) ++
  aboutText document "sample_freq" fun text =>
    violationIf (!isPercentage text) (.invalidSample text)

/-- The rules for the two modes. -/
def modeRules (document : Json) : List Violation :=
  let isPush := ((document.member? "deliver_subject").bind Json.asString?).isSome
  let isDurable := ((document.member? "durable_name").bind Json.asString?).isSome
  let rate := ((document.member? "rate_limit_bps").bind Json.asUnsigned64?).getD 0
  violationIf (decide (0 < rate) && !isPush) .rateLimitOnPull ++
  violationIf (!isDurable && !isPush) .ephemeralPull

/-- The violations of a document. -/
def violations : Json → List Violation
  | .object members =>
      let document := Json.object members
      nameRule document ++ subjectRules document ++ policyRules document ++
        limitRules document ++ modeRules document
  | _ => [.notObject]

end Schema

/-- The outcome of validating a configuration. -/
structure ValidationReport where
  /-- Nothing was found. -/
  isValid : Bool
  /-- What the operator is told. -/
  errors : List String
  /-- The canonical form that was looked at. -/
  canonical : String
  deriving DecidableEq

/-- Validates a configuration, unless validation is bypassed, and tells when it is. -/
def validate (bypass : Bool) (c : Config) : ValidationReport × List Log.Event :=
  if bypass then
    (⟨true, [], c.canonical⟩, [.debug "configuration validation bypassed" []])
  else
    let errors := (Schema.violations c.toJson).map Violation.message
    (⟨errors.isEmpty, errors, c.canonical⟩, [])

end JetStream.Consumer

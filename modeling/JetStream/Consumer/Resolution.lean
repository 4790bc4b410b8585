import JetStream.Consumer.File
import JetStream.Consumer.Flags
import JetStream.Consumer.Prompter
import JetStream.Consumer.Rules

/-!
# Resolving configurations

A complete configuration is made of flags and of answers to what they leave open.  The mode decides
about the acknowledgement policy, and that decides whether limits on deliveries matter.  A
configuration file replaces all of this.

What is asked, and what is told about it, is kept in a transcript, also when the resolution fails.
-/

namespace JetStream.Consumer

/-- What happened so far. -/
structure Transcript where
  /-- The questions that were asked, in order. -/
  asked : List Question := []
  /-- What was told, in order. -/
  events : List Log.Event := []
  deriving DecidableEq, Inhabited

/-- A computation that may ask, tell and fail. -/
abbrev Resolve := ExceptT Error (StateM Transcript)

namespace Resolve

/-- Tells something. -/
def tell (events : List Log.Event) : Resolve Unit :=
  modify fun t => { t with events := t.events ++ events }

end Resolve

open Resolve

/-- Puts a question on the record, and gives back those before it. -/
def recordQuestion (question : Question) : Resolve (List Question) :=
  modifyGet fun t => (t.asked, { t with asked := t.asked ++ [question] })

/-- Asks a question.  Blanks around the answer do not count; where an answer is required, there must
be something left. -/
def ask (prompter : Prompter) (question : Question) : Resolve String := do
  let before ← recordQuestion question
  let answer ← ofExcept (prompter.ask before question)
  let answer := Text.trim answer
  if answer.isEmpty && question.isRequired then
    throw (.input (question.message ++ " is required"))
  tell [.debug "resolved by prompt" [("question", question.name), ("answer", answer)]]
  return answer

/-- What a flag says, or else the answer to a question. -/
def resolve (prompter : Prompter) (flag : Option String) (question : Question) :
    Resolve String :=
  match flag with
  | some value => return value
  | none => ask prompter question

/-- The number that a question has as its default. -/
def defaultNumber (question : Question) : Int64 :=
  ((question.defaultAnswer.bind Text.signed64?).map Int64.ofInt).getD 0

/-- The number that an answer denotes; a blank one denotes the default. -/
def readNumber (question : Question) (answer : String) : Except Error Int64 :=
  if answer.isEmpty then .ok (defaultNumber question)
  else
    match Text.signed64? answer with
    | some n => .ok (Int64.ofInt n)
    | none =>
        .error (.input ("invalid number '" ++ answer ++ "' for " ++ question.message))

/-- A limit on deliveries: what a flag says, or else the answer to a question where the limit
matters. -/
def resolveLimit (prompter : Prompter) (flag : Option Int64) (question : Question)
    (matters : Bool) (otherwise : Int64) : Resolve Int64 :=
  match flag with
  | some n => return n
  | none =>
      if matters then do
        let answer ← ask prompter question
        ofExcept (readNumber question answer)
      else return otherwise

/-- The name, unless there is to be none. -/
def resolveName (prompter : Prompter) (flags : Flags) : Resolve (Option String) :=
  if flags.ephemeral then return none
  else do
    let name ← resolve prompter (given flags.name) .durableName
    ofExcept (checkName name)
    return some name

/-- The subject that messages are pushed to, empty for a consumer that is pulled from. -/
def resolveTarget (prompter : Prompter) (flags : Flags) : Resolve String :=
  if flags.pull then return ""
  else resolve prompter (given flags.deliverSubject) .deliverySubject

/-- Where messages are pushed to; nothing for a consumer that is pulled from. -/
def resolveDelivery (prompter : Prompter) (flags : Flags) : Resolve (Option String) := do
  let delivery ← resolveTarget prompter flags
  if flags.ephemeral && delivery.isEmpty then throw ephemeralPull
  return given (some delivery)

/-- The configuration that flags and answers make. -/
def resolveFlags (prompter : Prompter) (now : Instant) (flags : Flags) : Resolve Config := do
  let name ← resolveName prompter flags
  let delivery ← resolveDelivery prompter flags
  let isPull := delivery.isNone
  let startToken ← resolve prompter flags.startPolicy .startPolicy
  let start ← ofExcept (readStart startToken now)
  let ackFlag := if isPull then some "explicit" else flags.ackPolicy
  let ackToken ← resolve prompter ackFlag .ackPolicy
  let replayToken ← resolve prompter flags.replayPolicy .replayPolicy
  let ack ← ofExcept (readAckPolicy ackToken)
  let replay ← ofExcept (readReplayPolicy replayToken)
  let sample ← ofExcept (readGiven flags.samplePercent none readSample)
  let filter ← resolve prompter flags.filterSubject .filterSubject
  let isAcknowledged := ack != .none
  let maxDeliver ← resolveLimit prompter flags.maxDeliver .maxDeliver isAcknowledged 0
  let maxAckPending ← resolveLimit prompter flags.maxAckPending .maxAckPending isAcknowledged (-1)
  let rateLimit := flags.rateLimit.getD 0
  if 0 < rateLimit && isPull then throw rateLimitOnPull
  return {
    durableName := name
    deliverSubject := delivery
    filterSubject := given (some filter)
    deliverPolicy := start
    ackPolicy := ack
    ackWait := (Duration.nonzero? flags.ackWait).getD .zero
    replayPolicy := replay
    maxDeliver := if isAcknowledged then maxDeliver else -1
    maxAckPending := if maxAckPending = -1 then 0 else maxAckPending
    rateLimit := rateLimit
    sampleFrequency := sample }

/-- What holds for resolved configurations, made to hold: whoever pulls acknowledges each message,
and without acknowledgements deliveries have no limit. -/
def Config.normalize (c : Config) : Config :=
  let c := if c.isPull then { c with ackPolicy := .explicit } else c
  if c.ackPolicy = .none then { c with maxDeliver := -1 } else c

/-- Refuses a file for a consumer of another name. -/
def checkFileName (path : String) (name : Option String) (c : Config) : Except Error Unit :=
  match c.durableName, given name with
  | some durable, some name =>
      if durable = name then .ok ()
      else
        .error (.input
          ("durable consumer name " ++ durable ++ " in " ++ path ++
            " does not match CLI consumer name " ++ name))
  | _, _ => .ok ()

/-- The configuration of a file. -/
def resolveFile (files : Files) (normalize : Bool) (path : String) (name : Option String) :
    Resolve Config := do
  let (result, events) := Config.load files path
  tell events
  let c ← ofExcept result
  tell [.debug "loaded consumer configuration from file" [("path", path)]]
  ofExcept (checkFileName path name c)
  return if normalize then c.normalize else c

/-- The files, the clock and whether configurations from files are normalized. -/
structure Circumstances where
  files : Files := default
  normalizeFileConfigs : Bool := false
  now : Instant
  deriving Inhabited

/-- Resolves a configuration. -/
def build (circumstances : Circumstances) (prompter : Prompter) (flags : Flags) : Resolve Config :=
  match flags.configFile with
  | some path =>
      resolveFile circumstances.files circumstances.normalizeFileConfigs path flags.name
  | none => resolveFlags prompter circumstances.now flags

/-- Runs a resolution from its start. -/
def Resolve.outcome {α : Type} (computation : Resolve α) : Except Error α × Transcript :=
  (ExceptT.run computation).run {}

end JetStream.Consumer

/-!
# Questions to the operator

What is asked of an operator who leaves a part of a configuration open, with everything that a
screen shows about it.
-/

namespace JetStream.Consumer

/-- A question about a part of a configuration. -/
inductive Question where
  | durableName
  | deliverySubject
  | startPolicy
  | ackPolicy
  | replayPolicy
  | filterSubject
  | maxDeliver
  | maxAckPending
  deriving DecidableEq, Inhabited

namespace Question

/-- All questions, in the order in which they come up. -/
def all : List Question :=
  [durableName, deliverySubject, startPolicy, ackPolicy, replayPolicy, filterSubject, maxDeliver,
   maxAckPending]

/-- What the question is called in the log. -/
def name : Question → String
  | durableName => "DurableName"
  | deliverySubject => "DeliverySubject"
  | startPolicy => "StartPolicy"
  | ackPolicy => "AckPolicy"
  | replayPolicy => "ReplayPolicy"
  | filterSubject => "FilterSubject"
  | maxDeliver => "MaxDeliver"
  | maxAckPending => "MaxAckPending"

/-- The question itself. -/
def message : Question → String
  | durableName => "Consumer name"
  | deliverySubject => "Delivery target"
  | startPolicy => "Start policy (all, new, last, 1h, msg sequence)"
  | ackPolicy => "Acknowledgement policy"
  | replayPolicy => "Replay policy"
  | filterSubject => "Filter Stream by subject (blank for all)"
  | maxDeliver => "Maximum Allowed Deliveries"
  | maxAckPending => "Maximum Acknowledgements Pending"

/-- An explanation for those who ask for it. -/
def help : Question → String
  | durableName =>
      "Name of the durable subscription, used when referencing this Consumer later. " ++
      "Settable using the consumer argument"
  | deliverySubject =>
      "Push Consumers dispatch messages in real time to this subject. " ++
      "Leaving this blank creates a Pull Consumer. Settable using --target and --pull"
  | startPolicy =>
      "Where the Consumer starts: all messages, only the last, only new ones, " ++
      "a stream sequence or a time delta. Settable using --deliver"
  | ackPolicy =>
      "'none' delivers every message once, 'all' acknowledges every earlier message too, " ++
      "'explicit' needs each acknowledged. Settable using --ack"
  | replayPolicy =>
      "Replay as fast as possible or at the rate messages originally arrived. " ++
      "Settable using --replay"
  | filterSubject =>
      "Deliver only messages on this subject out of all the subjects the Stream holds. " ++
      "Settable using --filter"
  | maxDeliver =>
      "-1 redelivers unacknowledged messages forever, above 0 limits delivery attempts. " ++
      "Settable using --max-deliver"
  | maxAckPending =>
      "Delivery is suspended once this many messages are awaiting acknowledgement, " ++
      "0 for unlimited. Settable using --max-pending"

/-- The answers to choose from. -/
def options : Question → Option (List String)
  | ackPolicy => some ["explicit", "all", "none"]
  | replayPolicy => some ["instant", "original"]
  | _ => none

/-- The answer of an operator who has none. -/
def defaultAnswer : Question → Option String
  | ackPolicy => some "none"
  | replayPolicy => some "instant"
  | deliverySubject | filterSubject => some ""
  | maxDeliver => some "-1"
  | maxAckPending => some "0"
  | durableName | startPolicy => none

/-- A blank answer will not do. -/
def isRequired : Question → Bool
  | durableName | startPolicy => true
  | _ => false

/-- The option on the command line that answers the question beforehand. -/
def flag : Question → String
  | durableName => "the consumer argument"
  | deliverySubject => "--target or --pull"
  | startPolicy => "--deliver"
  | ackPolicy => "--ack"
  | replayPolicy => "--replay"
  | filterSubject => "--filter"
  | maxDeliver => "--max-deliver"
  | maxAckPending => "--max-pending"

end Question

end JetStream.Consumer

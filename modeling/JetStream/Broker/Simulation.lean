import JetStream.Broker.Memory.Operation
import JetStream.Instant.Text
import JetStream.Procedure
import JetStream.Text.Hex

/-!
# Simulations

A procedure can be run on the broker in memory, with a clock that moves only while somebody waits.
Beside the procedure acts another client, whose operations follow one another with pauses between
them: each pause begins when the operation before has come to its end.
-/

namespace JetStream.Broker

open Memory (Operation)

/-- The world of a simulation. -/
structure Simulation where
  broker : Memory.State := {}
  /-- The time on the calendar, which stands still. -/
  now : Instant
  /-- How long the simulation has run. -/
  clock : Duration := .zero
  /-- What the other client is yet to do, each after a pause. -/
  agenda : List (Duration × Operation) := []
  /-- When the other client's last operation came to its end. -/
  idleSince : Duration := .zero
  /-- What was shown to the operator. -/
  output : String := ""
  /-- What was told. -/
  events : List Log.Event := []
  /-- How many names were made up. -/
  named : Nat := 0

namespace Simulation

/-- The name that is made up next. -/
def freshName (w : Simulation) : String :=
  "EPH" ++ String.ofList (Text.hexPlaces 8 (w.named + 1))

/-- A name is made up for the operation. -/
def usesName : Operation → Bool
  | .request (.createConsumer _ config) => config.durableName.isNone
  | _ => false

/-- How long an operation takes: only a fetch waits, when nothing comes. -/
def timeTaken (operation : Operation) (result : Except Error operation.Answer) : Duration :=
  match operation, result with
  | .request (.fetchNext _ _ expiry), .error (.timeout _) => expiry.roundUpToMilliseconds
  | _, _ => .zero

/-- Has an operation happen. -/
def happen (w : Simulation) (operation : Operation) :
    Except Error operation.Answer × Simulation :=
  let (result, broker) := w.broker.apply w.now w.freshName operation
  let made := usesName operation && result.isOk
  (result,
    { w with
      broker := broker
      events := w.events ++ w.broker.events operation
      named := if made then w.named + 1 else w.named })

/-- Has the other client do what falls due, up to a time if there is one. -/
def runAgenda (limit : Option Duration) : List (Duration × Operation) → Simulation → Simulation
  | [], w => { w with agenda := [] }
  | (pause, operation) :: rest, w =>
      let due := w.idleSince + pause.roundUpToMilliseconds
      if limit.any fun time => time.nanoseconds < due.nanoseconds then
        { w with agenda := (pause, operation) :: rest }
      else
        let (result, w) := w.happen operation
        runAgenda limit rest { w with idleSince := due + timeTaken operation result }

/-- Lets time pass. -/
def pass (w : Simulation) (duration : Duration) : Simulation :=
  let time := w.clock + duration.roundUpToMilliseconds
  { runAgenda (some time) w.agenda w with clock := time }

/-- Answers an effect. -/
def handle : Procedure.Handler Simulation
  | .request r, w =>
      let (result, w) := w.happen (.request r)
      let taken := timeTaken (.request r) result
      (result, if taken.isZero then w else w.pass taken)
  | .write text, w => (.ok (), { w with output := w.output ++ text })
  | .wait duration, w => ((), w.pass duration)
  | .clock, w => (w.clock, w)
  | .timeOfDay, w => (w.now.timeOfDay, w)
  | .tell event, w => ((), { w with events := w.events ++ [event] })

/-- The world at the end of everything that the other client is to do. -/
def finish (w : Simulation) : Simulation :=
  let w := runAgenda none w.agenda w
  { w with clock := ⟨max w.clock.nanoseconds w.idleSince.nanoseconds⟩ }

/-- Runs a procedure with another client beside it, until both have come to an end.  What was shown
and told is what was shown and told meanwhile. -/
def run {α : Type} (w : Simulation) (agenda : List (Duration × Operation))
    (procedure : Procedure α) : α × Simulation :=
  let (value, w) := procedure.run handle
    { w with agenda := agenda, idleSince := w.clock, output := "", events := [] }
  (value, w.finish)

end Simulation

end JetStream.Broker

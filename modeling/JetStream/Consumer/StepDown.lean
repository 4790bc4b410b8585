import JetStream.Consumer.Handle
import JetStream.Duration.Text

/-!
# Leaders that step down

A consumer that a cluster holds has a leader, which can be asked to give up.  What comes of it
shows in the state of the consumer, which is asked for a few times at intervals.
-/

namespace JetStream.Consumer

open Job (attempt clock request tell wait)

/-- How often the state is asked for after the request. -/
def stepDownPolls : Nat := 5

/-- How long to wait each time before asking for the state. -/
def pollInterval : Duration := .ofMilliseconds 500

/-- What came of a request to step down. -/
inductive StepDownOutcome where
  /-- After so many polls another leader was seen. -/
  | elected (previous leader : String) (polls : Nat)
  /-- The same leader was seen to the end. -/
  | unchanged (leader : String) (elapsed : Duration)
  deriving DecidableEq

namespace StepDownOutcome

/-- Another leader was seen. -/
def isElected : StepDownOutcome → Bool
  | elected _ _ _ => true
  | unchanged _ _ => false

/-- The leader that was seen last. -/
def leader : StepDownOutcome → String
  | elected _ leader _ => leader
  | unchanged leader _ => leader

/-- What the operator reads. -/
def text : StepDownOutcome → String
  | elected _ leader _ => "New leader elected \"" ++ leader ++ "\""
  | unchanged _ elapsed =>
      "Leader did not change after " ++ elapsed.binarySeconds.tenths ++ "s"

end StepDownOutcome

/-- What came of a request to step down, and the state at the end. -/
structure StepDownReport where
  outcome : StepDownOutcome
  state : Info
  deriving DecidableEq

/-- A state in which a cluster was seen, and its leader. -/
structure Sighting where
  leader : String
  state : Info
  deriving DecidableEq

/-- The details of a poll, and more. -/
def pollFields (poll : Nat) (more : List (String × String)) : List (String × String) :=
  ("attempt", toString poll) :: more

/-- Asks for the state, so many times at most, until the leader is not the previous one.  Gives the
poll at which that was, and what was seen last.  A request that fails counts as a poll. -/
def watch (h : Handle) (previous : String) (poll : Nat) :
    Nat → Sighting → Job (Option Nat × Sighting)
  | 0, seen => return (none, seen)
  | left + 1, seen => do
      wait pollInterval
      match ← attempt h.stateRequest with
      | .error e =>
          tell (.warn "consumer state request failed" (pollFields poll [("error", e.message)]))
          watch h previous (poll + 1) left seen
      | .ok state =>
          match state.cluster with
          | none =>
              tell (.debug "consumer state has no cluster information" (pollFields poll []))
              watch h previous (poll + 1) left seen
          | some cluster =>
              let fields := pollFields poll [("leader", cluster.leader)]
              if cluster.leader = previous then
                tell (.debug "leader unchanged" fields)
                watch h previous (poll + 1) left ⟨cluster.leader, state⟩
              else
                tell (.info "new leader elected" fields)
                return (some poll, ⟨cluster.leader, state⟩)

/-- What came of it, by what was seen since a time. -/
def judge (previous : String) (started : Duration) (poll : Option Nat) (seen : Sighting) :
    Job StepDownOutcome := do
  match poll with
  | some poll => return .elected previous seen.leader poll
  | none =>
      let elapsed := ⟨(← clock).nanoseconds - started.nanoseconds⟩
      tell (.warn "no new leader elected" [("elapsed", elapsed.exact)])
      return .unchanged seen.leader elapsed

/-- Asks for the state once more; if that fails, the state seen last stands. -/
def lastState (h : Handle) (seen : Sighting) : Job Info := do
  match ← attempt h.stateRequest with
  | .ok state => return state
  | .error e =>
      tell (.warn "could not refresh consumer state, reporting the last one seen"
        [("error", e.message)])
      return seen.state

/-- What is told before the request. -/
def stepDownEvent (h : Handle) (cluster : Cluster) : Log.Event :=
  .info
    ("Requesting leader step down of " ++ cluster.leader ++ " in a " ++
      toString (cluster.replicas.length + 1) ++ " peer RAFT group")
    [("stream", h.stream), ("consumer", h.name), ("leader", cluster.leader)]

/-- Asks the leader to step down and watches for a new one. -/
def stepDown (h : Handle) : Job StepDownReport := do
  let info ← h.state
  match info.cluster with
  | none => throw (.notClustered h.stream h.name)
  | some cluster =>
      tell (stepDownEvent h cluster)
      request (.stepDown h.stream h.name)
      let started ← clock
      let (poll, seen) ← watch h cluster.leader 1 stepDownPolls ⟨cluster.leader, info⟩
      let outcome ← judge cluster.leader started poll seen
      return ⟨outcome, ← lastState h seen⟩

end JetStream.Consumer

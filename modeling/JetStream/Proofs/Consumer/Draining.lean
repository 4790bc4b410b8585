import JetStream.Consumer.Subscription
import JetStream.Proofs.Broker.Memory.Drained
import JetStream.Proofs.Broker.Simulation
import JetStream.Proofs.Procedure.Execution

/-!
# A subscription at the broker in memory

A subscription that acknowledges drains the broker: it receives and acknowledges every message that
is pending for any consumer that pushes to the same subject, and leaves all other consumers alone.

## Strategy

What a subscription does to the broker is to subscribe and then to acknowledge the messages one by
one (`runIn_receiveAll`); what it shows and tells makes no difference to the broker.  What that
comes to is `State.length_subscribe` and `State.drained_subscribe`.
-/

namespace JetStream.Consumer

open Broker (Simulation)
open Broker.Memory (HeldConsumer State Step)
open Broker.Simulation (handle)
open Job (runIn)

variable {w : Simulation} {options : SubscribeOptions}

/-- A message is shown, and its acknowledgement reaches the broker. -/
theorem runIn_receive (hack : options.ack = true) (summary : Summary) {message : Message}
    (hreply : message.reply.isSome) (hworks : w.broker.failsAcks = false) :
    ∃ w' : Simulation, runIn handle (receive options summary message) w =
        (.ok { summary with
          received := summary.received + 1, acknowledged := summary.acknowledged + 1 }, w') ∧
      w'.broker = (w.broker.respondEmpty message).2 ∧ w'.agenda = w.agenda := by
  have hanswer : w.broker.respondEmpty message = (.ok (), (w.broker.respondEmpty message).2) :=
    Prod.ext (State.respondEmpty_eq_ok hreply hworks).1 rfl
  let shown := { w with
    output := w.output ++ Report.message w.now.timeOfDay message .pushed options.raw }
  obtain ⟨events, hdone⟩ :=
    Broker.Simulation.handle_request (w := shown) (r := .respondEmpty message) hanswer rfl rfl
  refine ⟨{ shown with broker := (w.broker.respondEmpty message).2, events := events }, ?_, rfl, rfl⟩
  unfold receive
  refine Job.runIn_timeOfDay_bind.trans ?_
  refine (Job.runIn_write_bind rfl).trans ?_
  rw [if_pos hack]
  exact Job.runIn_attempt_bind hdone

/-- Messages that can be acknowledged are, one after another. -/
theorem runIn_receiveAll (hack : options.ack = true) (summary : Summary) {messages : List Message}
    (hreplies : ∀ message ∈ messages, message.reply.isSome)
    (hworks : w.broker.failsAcks = false) :
    ∃ w' : Simulation, runIn handle (receiveAll options messages summary) w =
        (.ok { summary with
          received := summary.received + messages.length
          acknowledged := summary.acknowledged + messages.length }, w') ∧
      w'.broker = w.broker.acknowledgeAll messages ∧ w'.agenda = w.agenda := by
  induction messages generalizing w summary with
  | nil => exact ⟨w, rfl, rfl, rfl⟩
  | cons message rest ih =>
      obtain ⟨hreply, hreplies'⟩ := List.forall_mem_cons.mp hreplies
      obtain ⟨w₁, hfirst, hbroker₁, hagenda₁⟩ := runIn_receive hack summary hreply hworks
      have hworks₁ : w₁.broker.failsAcks = false := by
        rw [hbroker₁]
        exact (State.respondEmpty_eq_ok hreply hworks).2
      obtain ⟨w₂, hrest, hbroker₂, hagenda₂⟩ := ih
        { summary with
          received := summary.received + 1, acknowledged := summary.acknowledged + 1 }
        hreplies' hworks₁
      refine ⟨w₂, ?_, ?_, hagenda₂.trans hagenda₁⟩
      · refine (Job.runIn_bind_of_ok hfirst).trans (hrest.trans ?_)
        simp only [List.length_cons, Nat.add_assoc, Nat.add_comm 1]
      · rw [hbroker₂, hbroker₁]
        rfl

/-- What a subscription without an interruption does after its header. -/
def receiving (options : SubscribeOptions) (subject : String) : Job Summary := do
  let messages ← Job.request (.subscribe subject)
  Job.tell (.info "subscribed"
    [("subject", subject), ("ack", if options.ack then "true" else "false")])
  let summary ← receiveAll options messages {}
  Job.tell (subscriptionEnded summary)
  return summary

/-- The header makes no difference to the broker. -/
theorem exists_runIn_receiving {h : Handle} {subject : String}
    (hsubject : h.config.deliverSubject = some subject) (options : SubscribeOptions)
    (w : Simulation) :
    ∃ shown : Simulation, runIn handle (subscribe h options none) w =
        runIn handle (receiving (options.effective h) subject) shown ∧
      shown.broker = w.broker ∧ shown.agenda = w.agenda := by
  unfold subscribe
  rw [hsubject]
  dsimp only
  cases (options.effective h).raw with
  | true => exact ⟨w, rfl, rfl, rfl⟩
  | false =>
      let shown := { w with
        output := w.output ++ subscriptionHeader h subject (options.effective h).ack }
      exact ⟨shown, Job.runIn_write_bind rfl, rfl, rfl⟩

/-- All that the broker has for a subject is received and acknowledged. -/
theorem runIn_receiving {subject : String} {messages : List Message} {s' : State}
    (hsubscribe : w.broker.subscribe subject = (messages, s')) (hack : options.ack = true)
    (hreplies : ∀ message ∈ messages, message.reply.isSome) (hworks : s'.failsAcks = false) :
    ∃ w' : Simulation, runIn handle (receiving options subject) w =
        (.ok { received := messages.length, acknowledged := messages.length }, w') ∧
      w'.broker = s'.acknowledgeAll messages ∧ w'.agenda = w.agenda := by
  have hanswer : w.broker.answer w.now w.freshName (.subscribe subject) = (.ok messages, s') := by
    unfold State.answer
    dsimp only
    rw [hsubscribe]
  obtain ⟨events, hsubscribed⟩ := Broker.Simulation.handle_request hanswer rfl rfl
  let told := (handle (.tell (.info "subscribed"
      [("subject", subject), ("ack", if options.ack then "true" else "false")]))
    { w with broker := s', events := events }).2
  obtain ⟨w₁, hreceived, hbroker, hagenda⟩ := runIn_receiveAll (w := told) hack {} hreplies hworks
  rw [Nat.zero_add] at hreceived
  let summary : Summary := { received := messages.length, acknowledged := messages.length }
  refine ⟨(handle (.tell (subscriptionEnded summary)) w₁).2, ?_, hbroker, hagenda⟩
  unfold receiving
  refine (Job.runIn_request_bind hsubscribed).trans ?_
  refine Job.runIn_tell_bind.trans ?_
  refine (Job.runIn_bind_of_ok hreceived).trans ?_
  exact Job.runIn_tell_bind

/-- With nobody else at work, a subscription to the subject of a consumer drains the broker in
memory: every message that was pending for any consumer that pushes to the subject is received and
acknowledged.  Afterwards nothing is pending for these consumers, and there waits what waited before
for its own acknowledgement, or nothing where one message stands for all before it; other consumers
are as they were. -/
theorem subscribe_drained (h : Handle) (options : SubscribeOptions) (w : Simulation)
    {before : List Step} {subject : String} (hsubject : h.config.deliverSubject = some subject)
    (hpolicy : h.config.ackPolicy ≠ .none) (hack : options.ack = true)
    (hbroker : w.broker = ({} : State).run before) (haddressable : w.broker.IsAddressable)
    (hworks : w.broker.failsAcks = false) (hraw : (w.broker.raw.get? subject).getD [] = []) :
    (w.run [] (subscribe h options none).run).1 =
        .ok {
          received := w.broker.pendingFor subject
          acknowledged := w.broker.pendingFor subject
          failures := 0 } ∧
      ∀ stream consumer, Option.Rel (HeldConsumer.Drained subject)
        (w.broker.held? stream consumer)
        ((w.run [] (subscribe h options none).run).2.broker.held? stream consumer) := by
  have hs : w.broker.Coherent := hbroker ▸ State.coherent_run before
  have hcounted : ∀ {stream consumer held}, w.broker.held? stream consumer = some held →
      held.IsCounted := fun hheld => State.isCounted_run (hbroker ▸ hheld)
  obtain ⟨hlength, hreplies⟩ := State.length_subscribe hs hcounted haddressable hraw
  have heffective : (options.effective h).ack = true := by
    show (options.ack && decide (h.config.ackPolicy ≠ .none)) = true
    simp [hack, hpolicy]
  -- the subscription runs with nobody else at work, and nobody is when it ends
  let alone := { w with agenda := [], idleSince := w.clock, output := "", events := [] }
  obtain ⟨shown, hshown, hsame, hagenda⟩ := exists_runIn_receiving hsubject options alone
  have hsubscribe : shown.broker.subscribe subject =
      ((w.broker.subscribe subject).1, (w.broker.subscribe subject).2) := by
    rw [hsame]
  obtain ⟨w', hreceived, hbroker', hagenda'⟩ :=
    runIn_receiving hsubscribe heffective hreplies hworks
  have hrun : w.run [] (subscribe h options none).run =
      (.ok { received := w.broker.pendingFor subject, acknowledged := w.broker.pendingFor subject },
        w'.finish) := by
    have hrun := hshown.trans hreceived
    unfold runIn at hrun
    unfold Broker.Simulation.run
    rw [hrun, hlength]
  rw [hrun]
  refine ⟨rfl, fun stream consumer => ?_⟩
  rw [Broker.Simulation.finish_of_alone (hagenda'.trans hagenda), hbroker']
  exact State.drained_subscribe hs hcounted haddressable hraw hworks stream consumer

/-- Two consumers push to one subject, and only one of them is subscribed to.  The other one, where
a message stands for all before it, has nothing left either. -/
theorem subscribe_drained_shared :
    let s := ({} : State).run
      [⟨.epoch, "", .addStream "S" ["a"]⟩,
       ⟨.epoch, "", .request
        (.createConsumer "S" { durableName := some "D", deliverSubject := some "p" })⟩,
       ⟨.epoch, "", .request (.createConsumer "S"
        { durableName := some "E", deliverSubject := some "p", ackPolicy := .all })⟩,
       ⟨.epoch, "", .publish "a" [] [1]⟩, ⟨.epoch, "", .publish "a" [] [2]⟩]
    let h : Handle := ⟨"S", "D", { durableName := some "D", deliverSubject := some "p" }⟩
    let outcome := ({ broker := s, now := .epoch } : Simulation).run [] (subscribe h {} none).run
    outcome.1 = .ok { received := 4, acknowledged := 4, failures := 0 } ∧
      ∃ held, outcome.2.broker.held? "S" "E" = some held ∧ held.pending = [] ∧
        held.unacked = [] := by
  intro s h outcome
  obtain ⟨hresult, hdrained⟩ := subscribe_drained h {} { broker := s, now := .epoch } rfl
    (by decide) rfl rfl (by decide) rfl rfl
  refine ⟨hresult, ?_⟩
  obtain ⟨held, hheld, hpushed, hall, hpending⟩ : ∃ held, s.held? "S" "E" = some held ∧
      held.info.config.deliverSubject = some "p" ∧ held.info.config.ackPolicy = .all ∧
      held.pending = [1, 2] := ⟨_, rfl, rfl, rfl, rfl⟩
  have hafter : Option.Rel (HeldConsumer.Drained "p") (some held)
      (outcome.2.broker.held? "S" "E") := hheld ▸ hdrained "S" "E"
  generalize outcome.2.broker.held? "S" "E" = found at hafter ⊢
  cases hafter with
  | @some _ held' hdrained =>
      refine ⟨held', rfl, hdrained.pending hpushed, ?_⟩
      rw [hdrained.all hpushed hall, hpending]
      rfl

end JetStream.Consumer

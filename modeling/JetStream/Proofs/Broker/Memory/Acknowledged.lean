import JetStream.Proofs.Broker.Memory.Delivered

/-!
# Deliveries acknowledged

A message that was handed out for a consumer is one that was published to its stream, and tells so:
its address is read as the details of the delivery.  An acknowledgement is nothing but a reply to
that address, and it comes later, when other things have happened.  It reaches the consumer of the
delivery as long as that is there.

## Strategy

The message knows nothing but its address.  What that says does not depend on the state of the
broker (`metadata?_deliverUpTo`), and `respondEmpty_of_metadata?` leads from it to the consumer.
That the consumer is still there is `keeps_run`.
-/

namespace JetStream.Broker.Memory

/-! ## What waits for an acknowledgement -/

/-- What was acknowledged does not wait any more, and under one policy nothing before it does. -/
theorem HeldConsumer.unacked_acknowledge (held : HeldConsumer) (sequence : Nat) :
    (∀ entry ∈ (held.acknowledge sequence).unacked, entry.1 ≠ sequence) ∧
      (held.info.config.ackPolicy = .all →
        ∀ entry ∈ (held.acknowledge sequence).unacked, sequence < entry.1) := by
  have hspared : ∀ entry ∈ (held.acknowledge sequence).unacked,
      spares held.info.config.ackPolicy sequence entry = true := by
    intro entry hentry
    rw [unacked_acknowledge_eq] at hentry
    exact (List.mem_filter.mp hentry).2
  unfold spares at hspared
  by_cases hall : held.info.config.ackPolicy = .all
  · simp only [if_pos hall, decide_eq_true_eq] at hspared
    exact ⟨fun entry hentry => Nat.ne_of_gt (hspared entry hentry), fun _ => hspared⟩
  · simp only [if_neg hall, decide_eq_true_eq] at hspared
    exact ⟨hspared, fun h => absurd h hall⟩

/-! ## Replying to it -/

/-- The sequence that the address of a message tells of, if that was delivered for the consumer. -/
def deliveredTo? (stream consumer : String) (message : Message) : Option Nat :=
  (message.metadata?.filter fun details =>
    details.stream = stream ∧ details.consumer = consumer).map (·.streamSequence)

theorem deliveredTo?_of_metadata? {message : Message} {details : Metadata}
    (hmetadata : message.metadata? = some details) (stream consumer : String) :
    deliveredTo? stream consumer message =
      if details.stream = stream ∧ details.consumer = consumer then some details.streamSequence
      else none := by
  rw [deliveredTo?, hmetadata, Option.filter_some]
  by_cases hsame : details.stream = stream ∧ details.consumer = consumer
  · simp [hsame]
  · simp [hsame]

namespace State

variable {s : State} {stream consumer : String} {held : HeldConsumer}

theorem respondEmpty_eq_ok {message : Message} (hreply : message.reply.isSome)
    (hworks : s.failsAcks = false) :
    (s.respondEmpty message).1 = .ok () ∧ (s.respondEmpty message).2.failsAcks = false := by
  obtain ⟨reply, hreply⟩ := Option.isSome_iff_exists.mp hreply
  unfold State.respondEmpty Message.replySubject
  rw [hreply]
  dsimp only
  rw [if_neg (Bool.eq_false_iff.mp hworks)]
  refine ⟨rfl, ?_⟩
  show (s.acknowledge reply).failsAcks = false
  unfold State.acknowledge
  split
  · exact hworks
  · exact hworks

/-- An acknowledgement changes the consumer that the message tells of, and no other. -/
theorem held?_respondEmpty {message : Message} (hreply : message.reply.isSome)
    (hworks : s.failsAcks = false) (stream consumer : String) :
    (s.respondEmpty message).2.held? stream consumer =
      (s.held? stream consumer).map fun held =>
        (deliveredTo? stream consumer message).elim held held.acknowledge := by
  obtain ⟨reply, hreply⟩ := Option.isSome_iff_exists.mp hreply
  unfold State.respondEmpty Message.replySubject
  rw [hreply]
  dsimp only
  rw [if_neg (Bool.eq_false_iff.mp hworks)]
  show (s.acknowledge reply).held? stream consumer = _
  have hparse := metadata?_of_reply hreply
  unfold State.acknowledge
  cases hdetails : Metadata.parse? reply with
  | none => simp [deliveredTo?, hparse, hdetails]
  | some details =>
      dsimp only
      rw [held?_modifyConsumer]
      refine congrArg (fun f => Option.map f _) (funext fun held => ?_)
      rw [deliveredTo?_of_metadata? (hparse.trans hdetails)]
      split
      · rfl
      · rfl

/-- A reply goes to the consumer that the details name. -/
theorem respondEmpty_of_metadata? {message : Message} {details : Metadata}
    (hmetadata : message.metadata? = some details) (hworks : s.failsAcks = false)
    (hheld : s.held? details.stream details.consumer = some held) :
    (s.respondEmpty message).1 = .ok () ∧
      (s.respondEmpty message).2.held? details.stream details.consumer =
        some (held.acknowledge details.streamSequence) := by
  obtain ⟨reply, hreply, -⟩ := Option.bind_eq_some_iff.mp hmetadata
  have hanswerable : message.reply.isSome := Option.isSome_of_eq_some hreply
  refine ⟨(respondEmpty_eq_ok hanswerable hworks).1, ?_⟩
  rw [held?_respondEmpty hanswerable hworks, hheld, Option.map_some,
    deliveredTo?_of_metadata? hmetadata, if_pos ⟨rfl, rfl⟩]
  rfl

/-- A message that a step hands out for a consumer was published to its stream, and says what its
delivery was, with the time where that `HasCount`; the consumer just after it is `moment`.  If the
step is a subscription, the message is in its answer, among those for the consumer.  From then on a
reply takes the sequence of the message off what waits for an acknowledgement, whatever happens in
between, unless that ends the consumer.  Sequences are numbers of 64 bits. -/
theorem acknowledged_of_handedTo (before : List Step) (step : Step) {stream consumer : String}
    {heldStream : HeldStream} {held : HeldConsumer} {i : Nat} {message : Message}
    (hstream : (({} : State).run before).streams.get? stream = some heldStream)
    (hconsumer : heldStream.consumers.get? consumer = some held)
    (hstreamName : '.' ∉ stream.toList) (hconsumerName : '.' ∉ consumer.toList)
    (hbound : heldStream.messages.length ≤ Text.maxUnsigned64)
    (hmessage : ((({} : State).run before).handedTo stream consumer step)[i]? = some message) :
    let s := ({} : State).run before
    let moment := (held.deliverUpTo heldStream (i + 1)).2
    (∀ subject : String,
      (s.subscribe subject).1 =
        (s.raw.get? subject).getD [] ++
          s.streams.flatMap fun stream =>
            stream.2.consumers.flatMap fun consumer => s.pushedTo stream.1 consumer.1 subject) ∧
    (i + 1 = (s.handedTo stream consumer step).length →
      (s.after step).held? stream consumer = some moment) ∧
    ∃ m stored, ({} : State).Publishes before stream m ∧
      message.subject = m.subject ∧ message.headers = m.headers ∧ message.payload = m.payload ∧
      (m.time.HasCount → stored = m.time) ∧
      message.metadata? =
        some
          { domain := none
            stream := stream
            consumer := consumer
            delivered := 1
            streamSequence := m.sequence
            consumerSequence := moment.info.delivered.consumer
            stored := stored
            pending := moment.pending.length } ∧
      ∀ later : List Step, (∀ step ∈ later, ¬step.ends stream consumer) →
        ((s.after step).run later).failsAcks = false →
          (((s.after step).run later).respondEmpty message).1 = .ok () ∧
          ∃ held', (((s.after step).run later).respondEmpty message).2.held? stream consumer =
              some held' ∧
            (∀ entry ∈ held'.unacked, entry.1 ≠ m.sequence) ∧
            (held'.info.config.ackPolicy = .all →
              ∀ entry ∈ held'.unacked, m.sequence < entry.1) := by
  intro s moment
  have hs : s.Coherent := coherent_run before
  have hcoherentStream := hs.streams stream heldStream hstream
  have hcoherent := hcoherentStream.consumers consumer held hconsumer
  have hheld : s.held? stream consumer = some held :=
    held?_eq_some_iff.mpr ⟨heldStream, hstream, hconsumer⟩
  have hhanded : s.handedTo stream consumer step ≠ [] := by
    intro hnil
    rw [hnil] at hmessage
    exact nomatch hmessage
  obtain ⟨n, hmessages, hafter⟩ := exists_deliverUpTo hstream hconsumer hhanded
  rw [hmessages] at hmessage ⊢
  -- the names in the address are those under which the consumer is kept
  obtain ⟨hheldStream, hheldName⟩ := hcoherentStream.named consumer held hconsumer
  obtain ⟨m, hm, hsubject, hheaders, hpayload, stored, hstored, hmetadata⟩ :=
    HeldConsumer.metadata?_deliverUpTo hcoherent hcoherentStream.numbered (isCounted_run hheld)
      hbound (hheldStream ▸ hstreamName) (hheldName ▸ hconsumerName) hmessage
  rw [hheldStream, hheldName] at hmetadata
  have hpublished : m ∈ s.messages stream := by
    unfold messages
    rw [hstream]
    exact hm
  refine ⟨subscribe_fst hs, ?_, m, stored, publishes_of_mem_messages hpublished, hsubject, hheaders,
    hpayload, hstored, hmetadata, ?_⟩
  · -- after the last message of the step nothing else happens in it
    intro hlast
    rw [hafter]
    show _ = some (held.deliverUpTo heldStream (i + 1)).2
    rw [hlast, HeldConsumer.deliverUpTo_length hcoherent hcoherentStream.numbered]
  · intro later hlater hworks
    obtain ⟨held', hheld', -⟩ := keeps_run (hs.after step) hafter later hlater
    obtain ⟨hanswer, hacknowledged⟩ := respondEmpty_of_metadata? hmetadata hworks hheld'
    obtain ⟨hgone, hbefore⟩ := held'.unacked_acknowledge m.sequence
    exact ⟨hanswer, held'.acknowledge m.sequence, hacknowledged, hgone, hbefore⟩

/-- A message that is acknowledged after another one was published and its consumer polled. -/
theorem acknowledged_of_handedTo_later :
    let before : List Step :=
      [⟨.epoch, "", .addStream "S" ["a"]⟩,
       ⟨.epoch, "", .request (.createConsumer "S" { durableName := some "D" })⟩,
       ⟨.epoch, "", .publish "a" [("k", "v")] [1]⟩]
    let step : Step := ⟨.epoch, "", .request (.fetchNext "S" "D" ⟨0⟩)⟩
    let later : List Step :=
      [⟨.epoch, "", .publish "a" [] [2]⟩, ⟨.epoch, "", .request (.consumerInfo "S" "D")⟩]
    let s := ((({} : State).run before).after step).run later
    ∃ message m, (({} : State).run before).handedTo "S" "D" step = [message] ∧
      message.payload = m.payload ∧ ({} : State).Publishes before "S" m ∧
      (s.respondEmpty message).1 = .ok () ∧
      ∃ held, (s.respondEmpty message).2.held? "S" "D" = some held ∧
        ∀ entry ∈ held.unacked, entry.1 ≠ m.sequence := by
  intro before step later s
  have hends : ∀ step ∈ later, ¬step.ends "S" "D" :=
    List.forall_mem_cons.mpr ⟨id, List.forall_mem_cons.mpr ⟨id, List.forall_mem_nil _⟩⟩
  obtain ⟨message, hmessage⟩ : ∃ message,
      (({} : State).run before).handedTo "S" "D" step = [message] := ⟨_, rfl⟩
  have hstream : (({} : State).run before).streams.get? "S" =
      some
        { subjects := ["a"]
          messages := [⟨1, "a", [("k", "v")], [1], .epoch⟩]
          consumers :=
            [("D", (newConsumer "S" "D" .epoch [] { durableName := some "D" }).enqueue 1)] } := by
    decide
  obtain ⟨-, -, m, -, hpublished, -, -, hpayload, -, -, hreplied⟩ :=
    acknowledged_of_handedTo before step hstream rfl (by decide) (by decide) (by decide)
      (congrArg (·[0]?) hmessage)
  obtain ⟨hanswer, held, hheld, hgone, -⟩ := hreplied later hends rfl
  exact ⟨message, m, hmessage, hpayload, hpublished, hanswer, held, hheld, hgone⟩

end State

end JetStream.Broker.Memory

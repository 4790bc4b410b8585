import JetStream.Proofs.Broker.Memory.History
import JetStream.Proofs.Broker.Memory.Published
import JetStream.Proofs.Message.Reply

/-!
# What a delivery says

A message that is handed out is one of the stream, and its address tells about the delivery what is
true of the consumer at that moment: its count of deliveries, and how many messages are left.

## Strategy

Several messages may be handed out in one step, so the moment of the delivery is not the state after
the step.  `deliverUpTo` says what it is: the consumer after as many deliveries as there were up to
this one.  `deliverUpTo_getElem?` reads the message off that moment, and `metadata?_deliverUpTo` the
details off the address of the message.

Names are told apart by points in an address, so they must not have points in them, and numbers have
to fit 64 bits to be read back.  A consumer does not count more deliveries than the sequence of the
last one (`IsCounted`), and nothing is pending twice, so it is enough that the sequences of the
stream fit.
-/

namespace JetStream.Broker.Memory

open Consumer (Config)

/-! ## All consumers of a run -/

namespace State

variable {s : State} {P : HeldConsumer → Prop}

/-- What new consumers have and moves keep is kept by a step. -/
theorem forall_held_after
    (hnew : ∀ stream name now messages config, P (newConsumer stream name now messages config))
    (hmoves : ∀ {stream stream' : HeldStream} {held held' : HeldConsumer},
      held.Coherent stream.messages → Numbered stream.messages → P held →
        HeldConsumer.Moves stream stream' held held' → P held')
    (hs : s.Coherent) (hP : ∀ {stream consumer held}, s.held? stream consumer = some held → P held)
    (step : Step) {stream consumer : String} {held : HeldConsumer}
    (hheld : (s.after step).held? stream consumer = some held) : P held := by
  obtain ⟨heldStream', hstream', hconsumer'⟩ := held?_eq_some_iff.mp hheld
  rcases streams_after hs.ascending step with ⟨name, subjects, -, hinsert⟩ | hfollows
  · rw [hinsert, NameMap.get?_insert] at hstream'
    split at hstream'
    next =>
      -- a new stream has no consumers
      cases hstream'
      exact nomatch hconsumer'
    next => exact hP (held?_eq_some_iff.mpr ⟨heldStream', hstream', hconsumer'⟩)
  · have hahead := hfollows.ahead stream
    rw [hstream'] at hahead
    generalize hbefore : s.streams.get? stream = before at hahead
    cases hahead with
    | stay => exact hP (held?_eq_some_iff.mpr ⟨heldStream', hbefore, hconsumer'⟩)
    | @change heldStream _ hchange =>
        rcases hchange.consumer hconsumer' with ⟨now, config, -, -, rfl⟩ | ⟨held₁, hheld₁, hmove⟩
        · exact hnew ..
        · have hcoherent := hs.streams stream heldStream hbefore
          exact hmoves (hcoherent.consumers consumer held₁ hheld₁) hcoherent.numbered
            (hP (held?_eq_some_iff.mpr ⟨heldStream, hbefore, hheld₁⟩)) hmove

/-- What new consumers have and moves keep is true of all consumers after any steps. -/
theorem forall_held_run
    (hnew : ∀ stream name now messages config, P (newConsumer stream name now messages config))
    (hmoves : ∀ {stream stream' : HeldStream} {held held' : HeldConsumer},
      held.Coherent stream.messages → Numbered stream.messages → P held →
        HeldConsumer.Moves stream stream' held held' → P held')
    (steps : List Step) {stream consumer : String} {held : HeldConsumer}
    (hheld : (({} : State).run steps).held? stream consumer = some held) : P held := by
  have general : ∀ (steps : List Step) (s : State), s.Coherent →
      (∀ {stream consumer held}, s.held? stream consumer = some held → P held) →
      ∀ {stream consumer held}, (s.run steps).held? stream consumer = some held → P held := by
    intro steps
    induction steps with
    | nil =>
        intro s _ hP stream consumer held hheld
        exact hP hheld
    | cons step steps ih =>
        intro s hs hP stream consumer held hheld
        exact ih (s.after step) (hs.after step) (forall_held_after hnew hmoves hs hP step) hheld
  exact general steps {} coherent_empty (fun hheld => nomatch hheld) hheld

end State

/-! ## One delivery after another -/

namespace HeldConsumer

variable {stream : HeldStream} {held held₁ : HeldConsumer} {message : Message}
  {P : HeldConsumer → Prop}

theorem deliver_of_nil (h : held.pending = []) : held.deliver stream = (none, held) := by
  unfold deliver
  rw [h]

theorem deliverUpTo_of_nil (h : held.pending = []) (n : Nat) :
    held.deliverUpTo stream n = ([], held) := by
  cases n with
  | zero => rfl
  | succ n =>
      rw [deliverUpTo]
      simp only [deliver_of_nil h]

theorem deliverUpTo_of_deliver (h : held.deliver stream = (some message, held₁)) (n : Nat) :
    held.deliverUpTo stream (n + 1) =
      (message :: (held₁.deliverUpTo stream n).1, (held₁.deliverUpTo stream n).2) := by
  rw [deliverUpTo]
  simp only [h]

/-- What is kept when a message is handed out is kept by a delivery. -/
theorem keeps_deliver
    (hP : ∀ {held : HeldConsumer} {sequence left}, held.Coherent stream.messages →
      held.pending = sequence :: left → P held → P (held.handOut sequence left))
    (hcoherent : held.Coherent stream.messages) (h : P held) : P (held.deliver stream).2 := by
  cases hpending : held.pending with
  | nil =>
      rw [deliver_of_nil hpending]
      exact h
  | cons sequence left =>
      obtain ⟨m, -, -, hdeliver⟩ := hcoherent.deliver_eq rfl hpending
      rw [hdeliver]
      exact hP hcoherent hpending h

/-- What is kept when a message is handed out is kept by any number of deliveries. -/
theorem keeps_deliverUpTo
    (hP : ∀ {held : HeldConsumer} {sequence left}, held.Coherent stream.messages →
      held.pending = sequence :: left → P held → P (held.handOut sequence left))
    (hcoherent : held.Coherent stream.messages) (hnumbered : Numbered stream.messages) (h : P held)
    (n : Nat) : P (held.deliverUpTo stream n).2 := by
  induction n generalizing held with
  | zero => exact h
  | succ n ih =>
      cases hpending : held.pending with
      | nil =>
          rw [deliverUpTo_of_nil hpending]
          exact h
      | cons sequence left =>
          obtain ⟨m, -, -, hdeliver⟩ := hcoherent.deliver_eq rfl hpending
          rw [deliverUpTo_of_deliver hdeliver]
          exact ih (hcoherent.handOut hnumbered hpending) (hP hcoherent hpending h)

/-- How often it is tried to deliver more makes no difference. -/
theorem deliverUpTo_length (h : held.Coherent stream.messages)
    (hnumbered : Numbered stream.messages) (n : Nat) :
    held.deliverUpTo stream (held.deliverUpTo stream n).1.length = held.deliverUpTo stream n := by
  induction n generalizing held with
  | zero => rfl
  | succ n ih =>
      cases hpending : held.pending with
      | nil =>
          rw [deliverUpTo_of_nil hpending, deliverUpTo_of_nil hpending]
      | cons sequence left =>
          obtain ⟨m, -, -, hdeliver⟩ := h.deliver_eq rfl hpending
          rw [deliverUpTo_of_deliver hdeliver, List.length_cons, deliverUpTo_of_deliver hdeliver,
            ih (h.handOut hnumbered hpending)]

/-- Every message is one of the stream, with the details of its delivery. -/
theorem deliverUpTo_getElem? (h : held.Coherent stream.messages)
    (hnumbered : Numbered stream.messages) {n i : Nat}
    (hmessage : (held.deliverUpTo stream n).1[i]? = some message) :
    ∃ m ∈ stream.messages,
      message =
        { subject := m.subject
          reply := some ((held.deliverUpTo stream (i + 1)).2.lastDelivery m).reply
          headers := m.headers
          payload := m.payload } := by
  induction i generalizing held n with
  | zero =>
      cases n with
      | zero => exact nomatch hmessage
      | succ n =>
          cases hpending : held.pending with
          | nil =>
              rw [deliverUpTo_of_nil hpending] at hmessage
              exact nomatch hmessage
          | cons sequence left =>
              obtain ⟨m, hm, -, hdeliver⟩ := h.deliver_eq rfl hpending
              rw [deliverUpTo_of_deliver hdeliver] at hmessage ⊢
              cases hmessage
              exact ⟨m, hm, rfl⟩
  | succ i ih =>
      cases n with
      | zero => exact nomatch hmessage
      | succ n =>
          cases hpending : held.pending with
          | nil =>
              rw [deliverUpTo_of_nil hpending] at hmessage
              exact nomatch hmessage
          | cons sequence left =>
              -- the message is one of those after the first, and so is its moment
              obtain ⟨first, -, -, hdeliver⟩ := h.deliver_eq rfl hpending
              rw [deliverUpTo_of_deliver hdeliver] at hmessage ⊢
              exact ih (h.handOut hnumbered hpending) hmessage

end HeldConsumer

/-! ## Numbers that fit 64 bits -/

namespace HeldConsumer

/-- There are not more deliveries than the sequence of the last one. -/
def IsCounted (held : HeldConsumer) : Prop :=
  held.info.delivered.consumer ≤ held.info.delivered.stream

variable {messages : List Stored} {stream stream' : HeldStream} {held held' : HeldConsumer}

theorem isCounted_handOut {sequence : Nat} {left : List Nat} (hcoherent : held.Coherent messages)
    (hpending : held.pending = sequence :: left) (h : held.IsCounted) :
    (held.handOut sequence left).IsCounted := by
  have hahead := hcoherent.pending_ahead sequence (hpending ▸ List.mem_cons_self)
  unfold IsCounted at h ⊢
  rw [delivered_handOut]
  show held.info.delivered.consumer + 1 ≤ sequence
  omega

theorem isCounted_moves (hcoherent : held.Coherent stream.messages)
    (hnumbered : Numbered stream.messages) (h : held.IsCounted)
    (hmoves : Moves stream stream' held held') : held'.IsCounted := by
  cases hmoves with
  | stay hmessages => exact h
  | passed m hmessages hsequence => exact h
  | enqueued m hmessages hsequence hwanted => exact h
  | drained hmessages => exact keeps_deliverUpTo isCounted_handOut hcoherent hnumbered h _
  | changed hmessages hchange =>
      cases hchange with
      | clustered cluster => exact h
      | scheduled polls => exact h
      | polled =>
          unfold poll
          split
          · exact h
          · split
            · exact h
            · exact h
      | steppedDown =>
          unfold HeldConsumer.stepDown
          split
          · exact h
          · exact h
      | delivered => exact keeps_deliver isCounted_handOut hcoherent h
      | acknowledged sequence => exact h

end HeldConsumer

theorem State.isCounted_run {steps : List Step} {stream consumer : String} {held : HeldConsumer}
    (hheld : (({} : State).run steps).held? stream consumer = some held) : held.IsCounted :=
  forall_held_run (fun _ _ _ _ _ => Nat.le_refl 0) HeldConsumer.isCounted_moves steps hheld

/-- Ascending numbers above one bound and up to another are not more than lie between. -/
theorem length_le_of_pairwise {low high : Nat} {sequences : List Nat}
    (hascending : sequences.Pairwise (· < ·))
    (hbounds : ∀ sequence ∈ sequences, low < sequence ∧ sequence ≤ high) :
    sequences.length ≤ high - low := by
  induction sequences generalizing low with
  | nil => exact Nat.zero_le _
  | cons sequence rest ih =>
      obtain ⟨hfirst, hrest⟩ := List.pairwise_cons.mp hascending
      obtain ⟨hsequence, hbounds'⟩ := List.forall_mem_cons.mp hbounds
      have hlength := ih hrest fun other hother => ⟨hfirst other hother, (hbounds' other hother).2⟩
      rw [List.length_cons]
      omega

theorem HeldConsumer.Coherent.length_pending_le {messages : List Stored} {held : HeldConsumer}
    (h : held.Coherent messages) (hmessages : Numbered messages) :
    held.pending.length ≤ messages.length := by
  have hbounds : ∀ sequence ∈ held.pending, 0 < sequence ∧ sequence ≤ messages.length := by
    intro sequence hsequence
    obtain ⟨m, hm, rfl, -⟩ := h.pending_wanted sequence hsequence
    exact hmessages.bounds hm
  have hlength := length_le_of_pairwise h.pending_ascending hbounds
  exact hlength

/-! ## Reading the address -/

theorem metadata?_of_reply {message : Message} {reply : String} (h : message.reply = some reply) :
    message.metadata? = Metadata.parse? reply := by
  rw [Message.metadata?, h, Option.bind_some]

namespace HeldConsumer

variable {messages : List Stored} {stream : HeldStream} {held : HeldConsumer} {m : Stored}
  {message : Message}

/-- The details of the last delivery are read back, and the time as far as it can be written. -/
theorem parse?_lastDelivery (h : held.Coherent messages) (hnumbered : Numbered messages)
    (hcounted : held.IsCounted) (hm : m ∈ messages) (hbound : messages.length ≤ Text.maxUnsigned64)
    (hstream : '.' ∉ held.info.streamName.toList) (hname : '.' ∉ held.info.name.toList) :
    ∃ stored, (m.time.HasCount → stored = m.time) ∧ Metadata.parse? (held.lastDelivery m).reply =
      some
        { domain := none
          stream := held.info.streamName
          consumer := held.info.name
          delivered := 1
          streamSequence := m.sequence
          consumerSequence := held.info.delivered.consumer
          stored := stored
          pending := held.pending.length } := by
  have hsequence : m.sequence ≤ Text.maxUnsigned64 :=
    Nat.le_trans (hnumbered.bounds hm).2 hbound
  have hcount : held.info.delivered.consumer ≤ Text.maxUnsigned64 :=
    calc held.info.delivered.consumer
        ≤ held.info.delivered.stream := hcounted
      _ ≤ messages.length := h.delivered_le
      _ ≤ Text.maxUnsigned64 := hbound
  have hpending : held.info.pending ≤ Text.maxUnsigned64 :=
    calc held.info.pending
        = held.pending.length := h.pending_counted
      _ ≤ messages.length := h.length_pending_le hnumbered
      _ ≤ Text.maxUnsigned64 := hbound
  obtain ⟨stored, hstored, hparse⟩ := Metadata.parse?_reply (m := held.lastDelivery m) hstream hname
    (show 1 ≤ Text.maxUnsigned64 by decide) hsequence hcount hpending
  refine ⟨stored, hstored, ?_⟩
  rw [hparse, ← h.pending_counted]
  rfl

/-- Every message is one of the stream and tells about its delivery, which left the consumer as it
was then. -/
theorem metadata?_deliverUpTo (h : held.Coherent stream.messages)
    (hnumbered : Numbered stream.messages) (hcounted : held.IsCounted)
    (hbound : stream.messages.length ≤ Text.maxUnsigned64)
    (hstream : '.' ∉ held.info.streamName.toList) (hname : '.' ∉ held.info.name.toList) {n i : Nat}
    (hmessage : (held.deliverUpTo stream n).1[i]? = some message) :
    ∃ m ∈ stream.messages, message.subject = m.subject ∧ message.headers = m.headers ∧
      message.payload = m.payload ∧
      ∃ stored, (m.time.HasCount → stored = m.time) ∧ message.metadata? =
        some
          { domain := none
            stream := held.info.streamName
            consumer := held.info.name
            delivered := 1
            streamSequence := m.sequence
            consumerSequence := (held.deliverUpTo stream (i + 1)).2.info.delivered.consumer
            stored := stored
            pending := (held.deliverUpTo stream (i + 1)).2.pending.length } := by
  obtain ⟨m, hm, hcontents⟩ := deliverUpTo_getElem? h hnumbered hmessage
  -- deliveries do not change what the consumer is called
  have hidentity := held.identity_deliverUpTo stream (i + 1)
  have hmoment := h.deliverUpTo hnumbered rfl (i + 1)
  have hcounted' := keeps_deliverUpTo isCounted_handOut h hnumbered hcounted (i + 1)
  generalize (held.deliverUpTo stream (i + 1)).2 = moment at hcontents hidentity hmoment hcounted' ⊢
  have hmomentStream : moment.info.streamName = held.info.streamName := congrArg (·.1) hidentity
  have hmomentName : moment.info.name = held.info.name := congrArg (·.2.1) hidentity
  rw [← hmomentStream] at hstream ⊢
  rw [← hmomentName] at hname ⊢
  obtain ⟨stored, hstored, hparse⟩ :=
    parse?_lastDelivery hmoment hnumbered hcounted' hm hbound hstream hname
  refine ⟨m, hm, ?_, ?_, ?_, stored, hstored, ?_⟩
  · rw [hcontents]
  · rw [hcontents]
  · rw [hcontents]
  · have hreply : message.reply = some (moment.lastDelivery m).reply := congrArg (·.reply) hcontents
    rw [metadata?_of_reply hreply, hparse]

end HeldConsumer

/-! ## What a step hands out -/

namespace State

variable {s : State} {stream consumer : String} {heldStream : HeldStream} {held : HeldConsumer}

theorem fetchNext_eq_deliverUpTo (hstream : s.streams.get? stream = some heldStream)
    (hconsumer : heldStream.consumers.get? consumer = some held) (expiry : Duration)
    (hhanded : (s.fetchNext stream consumer expiry).1.toOption.toList ≠ []) :
    (s.fetchNext stream consumer expiry).1.toOption.toList = (held.deliverUpTo heldStream 1).1 ∧
      (s.fetchNext stream consumer expiry).2.held? stream consumer =
        some (held.deliverUpTo heldStream 1).2 := by
  have hheld : s.held? stream consumer = some held :=
    held?_eq_some_iff.mpr ⟨heldStream, hstream, hconsumer⟩
  rw [fetchNext_eq hstream hconsumer] at hhanded ⊢
  split at hhanded
  next hpush => exact absurd rfl hhanded
  next hpull =>
    rw [if_neg hpull]
    dsimp only at hhanded ⊢
    rw [held?_modifyConsumer, hheld, Option.map_some, if_pos ⟨rfl, rfl⟩]
    cases hdeliver : held.deliver heldStream with
    | mk message held₁ =>
        rw [hdeliver] at hhanded
        cases message with
        | none => exact absurd rfl hhanded
        | some message =>
            rw [HeldConsumer.deliverUpTo_of_deliver hdeliver]
            exact ⟨rfl, rfl⟩

theorem pushedTo_eq_deliverUpTo (hstream : s.streams.get? stream = some heldStream)
    (hconsumer : heldStream.consumers.get? consumer = some held) (subject : String)
    (hhanded : s.pushedTo stream consumer subject ≠ []) :
    s.pushedTo stream consumer subject = (held.deliverUpTo heldStream held.pending.length).1 ∧
      (s.subscribe subject).2.held? stream consumer =
        some (held.deliverUpTo heldStream held.pending.length).2 := by
  rw [pushedTo_eq hstream hconsumer] at hhanded ⊢
  rw [held?_subscribe, hstream, Option.bind_some, hconsumer, Option.map_some]
  split at hhanded
  next hpushed =>
    rw [if_pos hpushed, if_pos hpushed]
    exact ⟨rfl, rfl⟩
  next => exact absurd rfl hhanded

/-- A step that hands out messages for a consumer is as many deliveries, and nothing else. -/
theorem exists_deliverUpTo (hstream : s.streams.get? stream = some heldStream)
    (hconsumer : heldStream.consumers.get? consumer = some held) {step : Step}
    (hhanded : s.handedTo stream consumer step ≠ []) :
    ∃ n, s.handedTo stream consumer step = (held.deliverUpTo heldStream n).1 ∧
      (s.after step).held? stream consumer = some (held.deliverUpTo heldStream n).2 := by
  obtain ⟨now, freshName, operation⟩ := step
  -- no other request hands anything out, and no operation of an administrator does
  cases operation with
  | request r =>
      cases r with
      | fetchNext name other expiry =>
          unfold handedTo at hhanded ⊢
          dsimp only at hhanded ⊢
          split at hhanded
          next hsame =>
            obtain ⟨rfl, rfl⟩ := hsame
            rw [if_pos ⟨rfl, rfl⟩]
            exact ⟨1, fetchNext_eq_deliverUpTo hstream hconsumer expiry hhanded⟩
          next => exact absurd rfl hhanded
      | subscribe subject =>
          exact ⟨_, pushedTo_eq_deliverUpTo hstream hconsumer subject hhanded⟩
      | _ => exact absurd rfl hhanded
  | _ => exact absurd rfl hhanded

end State

end JetStream.Broker.Memory

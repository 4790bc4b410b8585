import JetStream.Broker.Memory.Operation
import JetStream.Proofs.NameMap.Entries

/-!
# Steps of the broker in memory

The broker is a state machine: an operation that happens at some time takes it from one state to the
next.  This file says once what a step can do, to a stream and to a consumer of it.

## Strategy

`HeldConsumer.Change` and `HeldStream.Change` list what can happen to a consumer and to a stream,
and `Follows` relates the streams before a step with those after it: under the same names, each of
them stays or goes through one change.  Each operation is looked at once, in the lemmas
`follows_…`; what else is proved of steps is a case analysis of the changes, not of the operations.
-/

namespace JetStream.Broker.Memory

open Consumer (Config Info)

/-! ## Steps and runs -/

/-- An operation that happens at some time.  The fresh name is for a consumer without one. -/
structure Step where
  now : Instant
  freshName : String
  operation : Operation

/-- The state after a step. -/
def State.after (s : State) (step : Step) : State :=
  (s.apply step.now step.freshName step.operation).2

/-- The state after steps, one by one. -/
def State.run (s : State) (steps : List Step) : State :=
  steps.foldl State.after s

theorem State.run_concat (s : State) (before : List Step) (step : Step) :
    s.run (before ++ [step]) = (s.run before).after step := by
  unfold State.run
  rw [List.foldl_append]
  rfl

theorem State.run_append_cons (s : State) (earlier : List Step) (step : Step) (later : List Step) :
    s.run (earlier ++ step :: later) = ((s.run earlier).after step).run later := by
  unfold State.run
  rw [List.foldl_append, List.foldl_cons]

/-! ## What a step can do -/

/-- What can happen to a consumer of a stream, other than that a message comes in. -/
inductive HeldConsumer.Change (stream : HeldStream) (held : HeldConsumer) :
    HeldConsumer → Prop where
  | clustered (cluster : Cluster) :
      Change stream held { held with info := { held.info with cluster := some cluster } }
  | scheduled (polls : Option Nat) : Change stream held { held with electAfter := polls }
  | polled : Change stream held held.poll
  | steppedDown : Change stream held held.stepDown
  | delivered : Change stream held (held.deliver stream).2
  | acknowledged (sequence : Nat) : Change stream held (held.acknowledge sequence)

/-- What can happen to a stream with a name. -/
inductive HeldStream.Change (name : String) (stream : HeldStream) : HeldStream → Prop where
  | stored (subject : String) (headers : List (String × String)) (payload : Text.Bytes)
      (time : Instant) :
      Change name stream (stream.store ⟨stream.nextSequence, subject, headers, payload, time⟩)
  | created (consumer : String) (now : Instant) (config : Config)
      (habsent : stream.consumers.get? consumer = none) :
      Change name stream
        { stream with
          consumers := stream.consumers.insert consumer
            (State.newConsumer name consumer now stream.messages config) }
  | deleted (consumer : String) :
      Change name stream { stream with consumers := stream.consumers.erase consumer }
  | drained (subject : String) : Change name stream (stream.drain subject).2
  | changed (consumer : String) (f : HeldConsumer → HeldConsumer)
      (hchange : ∀ held, stream.consumers.get? consumer = some held →
        HeldConsumer.Change stream held (f held)) :
      Change name stream { stream with consumers := stream.consumers.modify consumer f }

/-- What is kept under a name stays, or goes through a change. -/
inductive Ahead (name : String) : Option HeldStream → Option HeldStream → Prop where
  | stay (stream : Option HeldStream) : Ahead name stream stream
  | change {stream stream' : HeldStream} (hchange : HeldStream.Change name stream stream') :
      Ahead name (some stream) (some stream')

/-- Streams under the same names, each of which stays or goes through a change. -/
structure Follows (streams streams' : NameMap HeldStream) : Prop where
  names : streams'.names = streams.names
  ahead : ∀ name, Ahead name (streams.get? name) (streams'.get? name)

theorem Follows.refl (streams : NameMap HeldStream) : Follows streams streams :=
  ⟨rfl, fun name => .stay (streams.get? name)⟩

namespace State

variable {s : State}

/-! ## Changes of a stream, and of a consumer -/

theorem follows_modify {name : String} {f : HeldStream → HeldStream}
    (hf : ∀ stream, s.streams.get? name = some stream → HeldStream.Change name stream (f stream)) :
    Follows s.streams (s.streams.modify name f) := by
  refine ⟨NameMap.names_modify name f s.streams, ?_⟩
  intro other
  rw [NameMap.get?_modify]
  by_cases hname : name = other
  · subst hname
    cases hstream : s.streams.get? name with
    | none => exact .stay none
    | some stream =>
        rw [Option.map_some, if_pos rfl]
        exact .change (hf stream hstream)
  · have hsame : (fun stream : HeldStream => if name = other then f stream else stream) = id := by
      funext stream
      exact if_neg hname
    rw [hsame, Option.map_id]
    exact .stay _

theorem follows_modifyConsumers {name : String} {f : NameMap HeldConsumer → NameMap HeldConsumer}
    (hf : ∀ stream, s.streams.get? name = some stream →
      HeldStream.Change name stream { stream with consumers := f stream.consumers }) :
    Follows s.streams (s.modifyConsumers name f).streams :=
  follows_modify hf

theorem follows_modifyConsumer {name consumer : String} {f : HeldConsumer → HeldConsumer}
    (hf : ∀ stream held, s.streams.get? name = some stream →
      stream.consumers.get? consumer = some held → HeldConsumer.Change stream held (f held)) :
    Follows s.streams (s.modifyConsumer name consumer f).streams := by
  refine follows_modifyConsumers (f := (·.modify consumer f)) ?_
  intro stream hstream
  exact .changed consumer f fun held hheld => hf stream held hstream hheld

theorem stream_eq_ok_iff {name : String} {stream : HeldStream} :
    s.stream name = .ok stream ↔ s.streams.get? name = some stream := by
  unfold State.stream
  cases s.streams.get? name with
  | none => simp
  | some held => simp

theorem consumer_eq_ok_iff {name consumer : String} {held : HeldConsumer} :
    s.consumer name consumer = .ok held ↔
      ∃ stream, s.streams.get? name = some stream ∧ stream.consumers.get? consumer = some held := by
  unfold State.consumer State.stream
  cases s.streams.get? name with
  | none => simp [bind, Except.bind]
  | some stream => cases hheld : stream.consumers.get? consumer <;> simp [bind, Except.bind, hheld]

/-- The consumer that was looked up goes through a change. -/
theorem follows_modifyConsumer_of_eq {name consumer : String} {stream : HeldStream}
    {held held' : HeldConsumer} (hstream : s.streams.get? name = some stream)
    (hheld : stream.consumers.get? consumer = some held)
    (hchange : HeldConsumer.Change stream held held') :
    Follows s.streams (s.modifyConsumer name consumer fun _ => held').streams := by
  refine follows_modifyConsumer ?_
  intro stream' other hstream' hother
  cases hstream.symm.trans hstream'
  cases hheld.symm.trans hother
  exact hchange

/-! ## One operation after another -/

/-- A consumer that must be there goes through a change, or the state stays as it is. -/
theorem follows_change {α : Type} {name consumer : String}
    {f : HeldConsumer → Except Error (α × HeldConsumer)}
    (hf : ∀ stream held answer held', f held = .ok (answer, held') →
      HeldConsumer.Change stream held held') :
    Follows s.streams (s.change name consumer f).2.streams := by
  unfold State.change
  split
  · exact .refl s.streams
  · rename_i answer held' hok
    cases hconsumer : s.consumer name consumer with
    | error e =>
        rw [hconsumer] at hok
        exact nomatch hok
    | ok held =>
        rw [hconsumer] at hok
        obtain ⟨stream, hstream, hheld⟩ := consumer_eq_ok_iff.mp hconsumer
        exact follows_modifyConsumer_of_eq hstream hheld (hf stream held answer held' hok)

theorem follows_publish (hs : s.streams.Ascending) (now : Instant) (subject : String)
    (headers : List (String × String)) (payload : Text.Bytes) :
    Follows s.streams (s.publish now subject headers payload).2.streams := by
  unfold State.publish
  split
  · exact .refl s.streams
  · rename_i name stream hfind
    -- the stream that was found is the one under its name, since names do not repeat
    have hstream := NameMap.get?_of_mem hs (List.mem_of_find?_eq_some hfind)
    refine follows_modify (f := (·.store ⟨stream.nextSequence, subject, headers, payload, now⟩)) ?_
    intro stream' hstream'
    cases hstream.symm.trans hstream'
    exact .stored subject headers payload now

theorem follows_consumerInfo (name consumer : String) :
    Follows s.streams (s.consumerInfo name consumer).2.streams := by
  unfold State.consumerInfo
  dsimp only
  split
  · exact .refl s.streams
  · refine follows_change (s := { s with infoRequests := s.infoRequests + 1 }) ?_
    intro stream held answer held' hok
    cases hok
    exact .polled

theorem follows_createConsumer (now : Instant) (freshName name : String) (config : Config) :
    Follows s.streams (s.createConsumer now freshName name config).2.streams := by
  unfold State.createConsumer
  split
  · exact .refl s.streams
  · rename_i stream hstream
    dsimp only
    split
    · split
      · exact .refl s.streams
      · exact .refl s.streams
    · rename_i habsent
      refine follows_modifyConsumers ?_
      intro stream' hstream'
      cases (stream_eq_ok_iff.mp hstream).symm.trans hstream'
      exact .created _ now config habsent

theorem follows_deleteConsumer (name consumer : String) :
    Follows s.streams (s.deleteConsumer name consumer).2.streams := by
  unfold State.deleteConsumer
  split
  · exact .refl s.streams
  · refine follows_modifyConsumers ?_
    intro stream _
    exact .deleted consumer

theorem follows_stepDown (name consumer : String) :
    Follows s.streams (s.stepDown name consumer).2.streams := by
  unfold State.stepDown
  refine follows_change (s := { s with stepDowns := s.stepDowns + 1 }) ?_
  intro stream held answer held' hok
  split at hok
  · exact nomatch hok
  · cases hok
    exact .steppedDown

theorem follows_fetchNext (name consumer : String) (expiry : Duration) :
    Follows s.streams (s.fetchNext name consumer expiry).2.streams := by
  unfold State.fetchNext
  split
  · rename_i stream held hstream hconsumer
    split
    · exact .refl s.streams
    · obtain ⟨stream', hstream', hheld⟩ := consumer_eq_ok_iff.mp hconsumer
      cases (stream_eq_ok_iff.mp hstream).symm.trans hstream'
      have hdelivered := follows_modifyConsumer_of_eq hstream' hheld .delivered
      dsimp only
      -- the state does not depend on whether a message came
      split
      · exact hdelivered
      · exact hdelivered
  · exact .refl s.streams
  · exact .refl s.streams

theorem streams_subscribe (s : State) (subject : String) :
    (s.subscribe subject).2.streams =
      s.streams.map fun entry => (entry.1, (entry.2.drain subject).2) :=
  List.map_map ..

theorem follows_subscribe (subject : String) :
    Follows s.streams (s.subscribe subject).2.streams := by
  rw [streams_subscribe]
  refine ⟨NameMap.names_map_values _ s.streams, ?_⟩
  intro name
  rw [NameMap.get?_map_values]
  cases s.streams.get? name with
  | none => exact .stay none
  | some stream => exact .change (.drained subject)

theorem follows_acknowledge (reply : String) :
    Follows s.streams (s.acknowledge reply).streams := by
  unfold State.acknowledge
  split
  · exact .refl s.streams
  · refine follows_modifyConsumer ?_
    intro stream held _ _
    exact .acknowledged _

theorem follows_respondEmpty (message : Message) :
    Follows s.streams (s.respondEmpty message).2.streams := by
  unfold State.respondEmpty
  split
  · exact .refl s.streams
  · split
    · exact .refl s.streams
    · exact follows_acknowledge _

/-! ## All steps -/

theorem follows_answer (now : Instant) (freshName : String) (r : Request) :
    Follows s.streams (s.answer now freshName r).2.streams := by
  cases r with
  | streamInfo stream => exact .refl s.streams
  | streamNames => exact .refl s.streams
  | consumerNames stream => exact .refl s.streams
  | consumerInfo stream consumer => exact follows_consumerInfo stream consumer
  | createConsumer stream config => exact follows_createConsumer now freshName stream config
  | deleteConsumer stream consumer => exact follows_deleteConsumer stream consumer
  | stepDown stream consumer => exact follows_stepDown stream consumer
  | fetchNext stream consumer expiry => exact follows_fetchNext stream consumer expiry
  | subscribe subject => exact follows_subscribe subject
  | respondEmpty message => exact follows_respondEmpty message
  | flush => exact .refl s.streams

/-- A step adds a stream, or every stream stays or goes through a change. -/
theorem streams_after (hs : s.streams.Ascending) (step : Step) :
    (∃ name subjects, step.operation = .addStream name subjects ∧
      (s.after step).streams = s.streams.insert name { subjects := subjects }) ∨
    Follows s.streams (s.after step).streams := by
  obtain ⟨now, freshName, operation⟩ := step
  cases operation with
  | addStream name subjects => exact .inl ⟨name, subjects, rfl, rfl⟩
  | publish subject headers payload => exact .inr (follows_publish hs now subject headers payload)
  | pushRaw subject message => exact .inr (.refl s.streams)
  | setCluster stream consumer cluster =>
      refine .inr (follows_change ?_)
      intro stream held answer held' hok
      cases hok
      exact .clustered cluster
  | electAfter stream consumer polls =>
      refine .inr (follows_change ?_)
      intro stream held answer held' hok
      cases hok
      exact .scheduled polls
  | failInfo count => exact .inr (.refl s.streams)
  | failAcks fail => exact .inr (.refl s.streams)
  | request r => exact .inr (follows_answer now freshName r)

theorem ascending_after (hs : s.streams.Ascending) (step : Step) :
    (s.after step).streams.Ascending := by
  rcases streams_after hs step with ⟨name, subjects, -, hinsert⟩ | hfollows
  · rw [hinsert]
    exact NameMap.ascending_insert name _ hs
  · unfold NameMap.Ascending
    rw [hfollows.names]
    exact hs

end State

/-! ## What a consumer is -/

namespace HeldConsumer

/-- What a consumer is, which stays as long as it is there. -/
def identity (held : HeldConsumer) : String × String × Consumer.Config :=
  (held.info.streamName, held.info.name, held.info.config)

theorem identity_handOut (held : HeldConsumer) (sequence : Nat) (left : List Nat) :
    (held.handOut sequence left).identity = held.identity := by
  unfold handOut
  dsimp only
  split
  · rfl
  · rfl

theorem pending_handOut (held : HeldConsumer) (sequence : Nat) (left : List Nat) :
    (held.handOut sequence left).pending = left := by
  unfold handOut
  dsimp only
  split
  · rfl
  · rfl

theorem delivered_handOut (held : HeldConsumer) (sequence : Nat) (left : List Nat) :
    (held.handOut sequence left).info.delivered =
      ⟨held.info.delivered.consumer + 1, sequence⟩ := by
  unfold handOut
  dsimp only
  split
  · rfl
  · rfl

theorem identity_deliver (held : HeldConsumer) (stream : HeldStream) :
    (held.deliver stream).2.identity = held.identity := by
  unfold deliver
  split
  · rfl
  · split
    · rfl
    · exact identity_handOut held _ _

theorem identity_deliverUpTo (held : HeldConsumer) (stream : HeldStream) (n : Nat) :
    (held.deliverUpTo stream n).2.identity = held.identity := by
  induction n generalizing held with
  | zero => rfl
  | succ n ih =>
      have hdeliver := held.identity_deliver stream
      unfold deliverUpTo
      split
      · rename_i held' hnone
        rw [hnone] at hdeliver
        exact hdeliver
      · rename_i message held' hsome
        rw [hsome] at hdeliver
        exact (ih held').trans hdeliver

theorem Change.identity_eq {stream : HeldStream} {held held' : HeldConsumer}
    (h : Change stream held held') : held'.identity = held.identity := by
  cases h with
  | clustered cluster => rfl
  | scheduled polls => rfl
  | polled =>
      unfold poll
      split
      · rfl
      · split
        · rfl
        · rfl
  | steppedDown =>
      unfold HeldConsumer.stepDown
      split
      · rfl
      · rfl
  | delivered => exact held.identity_deliver stream
  | acknowledged sequence => rfl

end HeldConsumer

/-! ## What a change of a stream is to a consumer -/

/-- A look-up of a consumer after a message was stored. -/
theorem HeldStream.get?_store (stream : HeldStream) (m : Stored) (consumer : String) :
    (stream.store m).consumers.get? consumer =
      (stream.consumers.get? consumer).map fun held =>
        if Subject.isWanted held.info.config.filterSubject m.subject then held.enqueue m.sequence
        else held := by
  unfold HeldStream.store
  rw [NameMap.get?_map]
  · refine congrArg (fun f => Option.map f _) (funext fun held => ?_)
    dsimp only
    split
    · rfl
    · rfl
  · intro entry
    split
    · rfl
    · rfl

/-- A look-up of a consumer after a subscription to a subject. -/
theorem HeldStream.get?_drain (stream : HeldStream) (subject consumer : String) :
    (stream.drain subject).2.consumers.get? consumer =
      (stream.consumers.get? consumer).map fun held =>
        if held.info.config.deliverSubject = some subject then (held.deliverAll stream).2
        else held := by
  unfold HeldStream.drain
  rw [NameMap.get?_map_values, NameMap.get?_map]
  · rw [Option.map_map]
    refine congrArg (fun f => Option.map f _) (funext fun held => ?_)
    dsimp only [Function.comp]
    split
    · rfl
    · rfl
  · intro entry
    split
    · rfl
    · rfl

/-- What a change of a stream is to a consumer that is there before and after it. -/
inductive HeldConsumer.Moves (stream stream' : HeldStream) (held : HeldConsumer) :
    HeldConsumer → Prop where
  /-- The consumer has no part in it. -/
  | stay (hmessages : stream'.messages = stream.messages) : Moves stream stream' held held
  /-- A message comes in that the consumer does not want. -/
  | passed (m : Stored) (hmessages : stream'.messages = stream.messages ++ [m])
      (hsequence : m.sequence = stream.nextSequence) : Moves stream stream' held held
  /-- A message comes in that the consumer wants. -/
  | enqueued (m : Stored) (hmessages : stream'.messages = stream.messages ++ [m])
      (hsequence : m.sequence = stream.nextSequence)
      (hwanted : Subject.isWanted held.info.config.filterSubject m.subject) :
      Moves stream stream' held (held.enqueue m.sequence)
  | drained (hmessages : stream'.messages = stream.messages) :
      Moves stream stream' held (held.deliverAll stream).2
  | changed {held' : HeldConsumer} (hmessages : stream'.messages = stream.messages)
      (hchange : Change stream held held') : Moves stream stream' held held'

/-- A consumer that is there after a change of its stream is new, or was there and moved. -/
theorem HeldStream.Change.consumer {name consumer : String} {stream stream' : HeldStream}
    {held' : HeldConsumer} (hchange : Change name stream stream')
    (hheld' : stream'.consumers.get? consumer = some held') :
    (∃ now config, stream.consumers.get? consumer = none ∧ stream'.messages = stream.messages ∧
      held' = State.newConsumer name consumer now stream.messages config) ∨
    ∃ held, stream.consumers.get? consumer = some held ∧
      HeldConsumer.Moves stream stream' held held' := by
  cases hchange with
  | stored subject headers payload time =>
      rw [get?_store] at hheld'
      obtain ⟨held, hheld, heq⟩ := Option.map_eq_some_iff.mp hheld'
      refine .inr ⟨held, hheld, ?_⟩
      rw [← heq]
      split
      · rename_i hwanted
        exact .enqueued _ rfl rfl hwanted
      · exact .passed _ rfl rfl
  | created other now config habsent =>
      rw [NameMap.get?_insert] at hheld'
      split at hheld'
      · rename_i hname
        subst hname
        exact .inl ⟨now, config, habsent, rfl, (Option.some.inj hheld').symm⟩
      · exact .inr ⟨held', hheld', .stay rfl⟩
  | deleted other =>
      rw [NameMap.get?_erase] at hheld'
      split at hheld'
      · exact nomatch hheld'
      · exact .inr ⟨held', hheld', .stay rfl⟩
  | drained subject =>
      rw [get?_drain] at hheld'
      obtain ⟨held, hheld, heq⟩ := Option.map_eq_some_iff.mp hheld'
      refine .inr ⟨held, hheld, ?_⟩
      rw [← heq]
      split
      · exact .drained rfl
      · exact .stay rfl
  | changed other f hf =>
      rw [NameMap.get?_modify] at hheld'
      obtain ⟨held, hheld, heq⟩ := Option.map_eq_some_iff.mp hheld'
      refine .inr ⟨held, hheld, ?_⟩
      rw [← heq]
      split
      · rename_i hname
        exact .changed rfl (hf held (hname ▸ hheld))
      · exact .stay rfl

theorem HeldConsumer.Moves.identity_eq {stream stream' : HeldStream} {held held' : HeldConsumer}
    (h : Moves stream stream' held held') : held'.identity = held.identity := by
  cases h with
  | stay hmessages => rfl
  | passed m hmessages hsequence => rfl
  | enqueued m hmessages hsequence hwanted => rfl
  | drained hmessages => exact held.identity_deliverUpTo stream _
  | changed hmessages hchange => exact hchange.identity_eq

/-- The names of the consumers keep their order. -/
theorem HeldStream.Change.ascending {name : String} {stream stream' : HeldStream}
    (hchange : Change name stream stream') (h : stream.consumers.Ascending) :
    stream'.consumers.Ascending := by
  cases hchange with
  | stored subject headers payload time =>
      refine NameMap.ascending_map ?_ h
      intro entry
      split
      · rfl
      · rfl
  | created consumer now config habsent => exact NameMap.ascending_insert consumer _ h
  | deleted consumer => exact NameMap.ascending_erase consumer h
  | drained subject =>
      refine NameMap.ascending_map (fun _ => rfl) (NameMap.ascending_map ?_ h)
      intro entry
      split
      · rfl
      · rfl
  | changed consumer f hf => exact NameMap.ascending_modify consumer f h

/-- A change of a stream adds one message at most, with the next sequence. -/
theorem HeldStream.Change.messages_eq {name : String} {stream stream' : HeldStream}
    (hchange : Change name stream stream') :
    stream'.messages = stream.messages ∨
      ∃ m, m.sequence = stream.nextSequence ∧ stream'.messages = stream.messages ++ [m] := by
  cases hchange with
  | stored subject headers payload time => exact .inr ⟨_, rfl, rfl⟩
  | created consumer now config habsent => exact .inl rfl
  | deleted consumer => exact .inl rfl
  | drained subject => exact .inl rfl
  | changed consumer f hf => exact .inl rfl

end JetStream.Broker.Memory

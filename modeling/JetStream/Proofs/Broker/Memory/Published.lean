import JetStream.Proofs.Broker.Memory.Steps

/-!
# Where messages come from

A message that is in a stream was published: some step stored it, and its sequence is what that
step was answered with.  Since then nothing took the place of the stream.

## Strategy

Only two operations make a difference to the messages of a stream: it is emptied when it is made
again, and it gets what is published to it.  `mem_messages_after` says so for all operations at
once; the rest is induction over the steps.
-/

namespace JetStream.Broker.Memory

/-- The step makes place for a new stream under the name. -/
def Step.replaces (step : Step) (stream : String) : Prop :=
  ∃ subjects, step.operation = .addStream stream subjects

namespace State

/-- What a stream is besides its consumers: the filters of its subjects, and its messages. -/
def contents? (s : State) (stream : String) : Option (List String × List Stored) :=
  (s.streams.get? stream).map fun held => (held.subjects, held.messages)

/-- The messages in a stream. -/
def messages (s : State) (stream : String) : List Stored :=
  ((s.streams.get? stream).map (·.messages)).getD []

/-- The step publishes the message, the stream is the one that captures it, and the answer is its
sequence. -/
structure Stores (s : State) (step : Step) (stream : String) (m : Stored) : Prop where
  operation_eq : step.operation = .publish m.subject m.headers m.payload
  now_eq : step.now = m.time
  captured : (s.streams.find? fun entry => entry.2.captures m.subject).map (·.1) = some stream
  answer : (s.publish m.time m.subject m.headers m.payload).1 = .ok m.sequence

/-- One of the steps stored the message in the stream, and no later one replaced the stream. -/
def Publishes (s : State) (steps : List Step) (stream : String) (m : Stored) : Prop :=
  ∃ earlier step later, steps = earlier ++ step :: later ∧ (s.run earlier).Stores step stream m ∧
    ∀ step ∈ later, ¬step.replaces stream

variable {s s' : State} {stream : String} {m : Stored}

theorem messages_of_contents? (h : s'.contents? stream = s.contents? stream) :
    s'.messages stream = s.messages stream := by
  have hmessages (s : State) :
      s.messages stream = ((s.contents? stream).map (·.2)).getD [] := by
    unfold messages contents?
    rw [Option.map_map]
    rfl
  rw [hmessages, hmessages, h]

/-! ## What is left as it is -/

theorem contents?_modifyConsumers (name : String)
    (f : NameMap HeldConsumer → NameMap HeldConsumer) :
    (s.modifyConsumers name f).contents? stream = s.contents? stream := by
  unfold contents? modifyConsumers
  rw [NameMap.get?_modify, Option.map_map]
  cases s.streams.get? stream with
  | none => rfl
  | some heldStream =>
      simp only [Option.map_some, Function.comp_apply, Option.some.injEq]
      split
      · rfl
      · rfl

theorem contents?_change {α : Type} (name consumer : String)
    (f : HeldConsumer → Except Error (α × HeldConsumer)) :
    (s.change name consumer f).2.contents? stream = s.contents? stream := by
  unfold State.change
  split
  · rfl
  · exact contents?_modifyConsumers name _

theorem contents?_createConsumer (now : Instant) (freshName name : String)
    (config : Consumer.Config) :
    (s.createConsumer now freshName name config).2.contents? stream = s.contents? stream := by
  unfold State.createConsumer
  split
  · rfl
  · dsimp only
    split
    · split
      · rfl
      · rfl
    · exact contents?_modifyConsumers name _

theorem contents?_fetchNext (name consumer : String) (expiry : Duration) :
    (s.fetchNext name consumer expiry).2.contents? stream = s.contents? stream := by
  unfold State.fetchNext
  split
  · split
    · rfl
    · dsimp only
      split
      · exact contents?_modifyConsumers name _
      · exact contents?_modifyConsumers name _
  · rfl
  · rfl

theorem contents?_subscribe (subject : String) :
    (s.subscribe subject).2.contents? stream = s.contents? stream := by
  unfold contents?
  rw [streams_subscribe, NameMap.get?_map_values, Option.map_map]
  rfl

theorem contents?_respondEmpty (message : Message) :
    (s.respondEmpty message).2.contents? stream = s.contents? stream := by
  unfold State.respondEmpty
  split
  · rfl
  · split
    · rfl
    · dsimp only
      unfold State.acknowledge
      split
      · rfl
      · exact contents?_modifyConsumers _ _

theorem contents?_answer (now : Instant) (freshName : String) (r : Request) :
    (s.answer now freshName r).2.contents? stream = s.contents? stream := by
  cases r with
  | streamInfo name => rfl
  | streamNames => rfl
  | consumerNames name => rfl
  | consumerInfo name consumer =>
      show (s.consumerInfo name consumer).2.contents? stream = _
      unfold State.consumerInfo
      dsimp only
      split
      · rfl
      · exact contents?_change name consumer _
  | createConsumer name config => exact contents?_createConsumer now freshName name config
  | deleteConsumer name consumer =>
      show (s.deleteConsumer name consumer).2.contents? stream = _
      unfold State.deleteConsumer
      split
      · rfl
      · exact contents?_modifyConsumers name _
  | stepDown name consumer => exact contents?_change name consumer _
  | fetchNext name consumer expiry => exact contents?_fetchNext name consumer expiry
  | subscribe subject => exact contents?_subscribe subject
  | respondEmpty message => exact contents?_respondEmpty message
  | flush => rfl

/-- Streams change only where one is made, and where a message comes in. -/
theorem contents?_after {step : Step}
    (hadd : ∀ name subjects, step.operation ≠ .addStream name subjects)
    (hpublish : ∀ subject headers payload, step.operation ≠ .publish subject headers payload) :
    (s.after step).contents? stream = s.contents? stream := by
  obtain ⟨now, freshName, operation⟩ := step
  cases operation with
  | addStream name subjects => exact absurd rfl (hadd name subjects)
  | publish subject headers payload => exact absurd rfl (hpublish subject headers payload)
  | setCluster name consumer cluster => exact contents?_change name consumer _
  | electAfter name consumer polls => exact contents?_change name consumer _
  | pushRaw subject message => rfl
  | failInfo count => rfl
  | failAcks fail => rfl
  | request r => exact contents?_answer now freshName r

/-! ## What makes a difference -/

theorem messages_addStream (name : String) (subjects : List String) :
    (s.addStream name subjects).messages stream =
      if name = stream then [] else s.messages stream := by
  unfold messages addStream
  rw [NameMap.get?_insert]
  split
  · rfl
  · rfl

theorem mem_messages_publish (hs : s.streams.Ascending) (now : Instant) (freshName subject : String)
    (headers : List (String × String)) (payload : Text.Bytes)
    (hm : m ∈ (s.publish now subject headers payload).2.messages stream) :
    m ∈ s.messages stream ∨
      s.Stores ⟨now, freshName, .publish subject headers payload⟩ stream m := by
  cases hfind : s.streams.find? fun entry => entry.2.captures subject with
  | none =>
      unfold State.publish at hm
      rw [hfind] at hm
      exact .inl hm
  | some entry =>
      obtain ⟨name, found⟩ := entry
      have hpublish : s.publish now subject headers payload =
          (.ok found.nextSequence, { s with
            streams := s.streams.modify name
              (·.store ⟨found.nextSequence, subject, headers, payload, now⟩) }) := by
        unfold State.publish
        rw [hfind]
      -- the stream that was found is the one under its name, since names do not repeat
      have hget := NameMap.get?_of_mem hs (List.mem_of_find?_eq_some hfind)
      rw [hpublish] at hm
      unfold messages at hm ⊢
      dsimp only at hm
      rw [NameMap.get?_modify] at hm
      cases hstream : s.streams.get? stream with
      | none =>
          rw [hstream] at hm
          exact nomatch hm
      | some heldStream =>
          rw [hstream] at hm
          by_cases hname : name = stream
          · subst hname
            cases hget.symm.trans hstream
            simp only [Option.map_some, if_true] at hm
            rcases List.mem_append.mp hm with hkept | hnew
            · exact .inl hkept
            · cases List.mem_singleton.mp hnew
              refine .inr ⟨rfl, rfl, ?_, congrArg (·.1) hpublish⟩
              rw [hfind]
              rfl
          · simp only [Option.map_some, if_neg hname] at hm
            exact .inl hm

/-- A message that is in a stream after a step was there before, and the stream was not replaced, or
the step stored it. -/
theorem mem_messages_after (hs : s.streams.Ascending) {step : Step}
    (hm : m ∈ (s.after step).messages stream) :
    (m ∈ s.messages stream ∧ ¬step.replaces stream) ∨ s.Stores step stream m := by
  obtain ⟨now, freshName, operation⟩ := step
  cases operation with
  | addStream name subjects =>
      have hafter : m ∈ (s.addStream name subjects).messages stream := hm
      rw [messages_addStream] at hafter
      split at hafter
      next => exact nomatch hafter
      next hname =>
        refine .inl ⟨hafter, ?_⟩
        rintro ⟨subjects', hoperation⟩
        cases hoperation
        exact hname rfl
  | publish subject headers payload =>
      rcases mem_messages_publish hs now freshName subject headers payload hm with hkept | hstores
      · exact .inl ⟨hkept, fun ⟨_, hoperation⟩ => nomatch hoperation⟩
      · exact .inr hstores
  | _ =>
      rw [messages_of_contents? (contents?_after (by exact fun _ _ => nofun)
        (by exact fun _ _ _ => nofun))] at hm
      exact .inl ⟨hm, fun ⟨_, hoperation⟩ => nomatch hoperation⟩

/-- A message that is in a stream after a run was there before, and the stream was never replaced,
or one of the steps stored it. -/
theorem mem_messages_run (hs : s.streams.Ascending) {steps : List Step}
    (hm : m ∈ (s.run steps).messages stream) :
    (m ∈ s.messages stream ∧ ∀ step ∈ steps, ¬step.replaces stream) ∨
      s.Publishes steps stream m := by
  -- on the steps from the front, so that what is left over is a run of the state after the first
  induction steps generalizing s with
  | nil => exact .inl ⟨hm, List.forall_mem_nil _⟩
  | cons step steps ih =>
      rcases ih (ascending_after hs step) hm with ⟨hafter, hkept⟩ | ⟨earlier, other, later, hsteps,
        hstores, hkept⟩
      · rcases mem_messages_after hs hafter with ⟨hbefore, hstep⟩ | hstores
        · exact .inl ⟨hbefore, List.forall_mem_cons.mpr ⟨hstep, hkept⟩⟩
        · exact .inr ⟨[], step, steps, rfl, hstores, hkept⟩
      · refine .inr ⟨step :: earlier, other, later, ?_, hstores, hkept⟩
        rw [hsteps]
        rfl

/-- Every message in a stream of a broker that was empty was published. -/
theorem publishes_of_mem_messages {steps : List Step}
    (hm : m ∈ (({} : State).run steps).messages stream) :
    ({} : State).Publishes steps stream m := by
  have hs : ({} : State).streams.Ascending := .nil
  rcases mem_messages_run hs hm with ⟨hbefore, -⟩ | hpublishes
  · exact nomatch hbefore
  · exact hpublishes

end State

end JetStream.Broker.Memory

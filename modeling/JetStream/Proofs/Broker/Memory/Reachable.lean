import JetStream.Proofs.Broker.Memory.Coherence
import JetStream.Proofs.Broker.Memory.Steps

/-!
# Coherence in all states

Every state that the broker comes to from an empty one is coherent: the messages of a stream are
numbered from 1 on, and what is kept for a consumer fits together.

## Strategy

A step adds a stream or takes streams through changes (`State.streams_after`), and a change of a
stream makes or moves a consumer (`HeldStream.Change.consumer`).  For each move there is a lemma
about coherence; what is left is an induction over the steps.
-/

namespace JetStream.Broker.Memory

/-- What is kept for a stream fits together. -/
structure HeldStream.Coherent (name : String) (stream : HeldStream) : Prop where
  numbered : Numbered stream.messages
  ascending : stream.consumers.Ascending
  named : ∀ consumer held, stream.consumers.get? consumer = some held →
    held.info.streamName = name ∧ held.info.name = consumer
  consumers : ∀ consumer held, stream.consumers.get? consumer = some held →
    held.Coherent stream.messages

/-- All that the broker keeps for streams and consumers fits together. -/
structure State.Coherent (s : State) : Prop where
  ascending : s.streams.Ascending
  streams : ∀ name stream, s.streams.get? name = some stream → stream.Coherent name

theorem HeldConsumer.Coherent.change {stream : HeldStream} {held held' : HeldConsumer}
    (h : held.Coherent stream.messages) (hmessages : Numbered stream.messages)
    (hchange : Change stream held held') : held'.Coherent stream.messages := by
  cases hchange with
  | clustered cluster => exact { h with }
  | scheduled polls => exact { h with }
  | polled => exact h.poll
  | steppedDown => exact h.stepDown
  | delivered => exact h.deliver hmessages rfl
  | acknowledged sequence => exact h.acknowledge sequence

theorem HeldConsumer.Coherent.moves {stream stream' : HeldStream} {held held' : HeldConsumer}
    (h : held.Coherent stream.messages) (hnumbered : Numbered stream.messages)
    (hmoves : Moves stream stream' held held') : held'.Coherent stream'.messages := by
  cases hmoves with
  | stay hmessages => exact hmessages ▸ h
  | passed m hmessages hsequence => exact hmessages ▸ h.append m
  | enqueued m hmessages hsequence hwanted =>
      exact hmessages ▸ h.enqueue hnumbered (hsequence.trans hnumbered.nextSequence_eq) hwanted
  | drained hmessages => exact hmessages ▸ h.deliverUpTo hnumbered rfl _
  | changed hmessages hchange => exact hmessages ▸ h.change hnumbered hchange

namespace HeldStream.Coherent

variable {name : String} {stream stream' : HeldStream}

theorem new (name : String) (subjects : List String) :
    ({ subjects := subjects } : HeldStream).Coherent name where
  numbered := rfl
  ascending := .nil
  named := fun _ _ hheld => nomatch hheld
  consumers := fun _ _ hheld => nomatch hheld

theorem change (h : stream.Coherent name) (hchange : HeldStream.Change name stream stream') :
    stream'.Coherent name where
  numbered := by
    rcases hchange.messages_eq with hsame | ⟨m, hsequence, hmore⟩
    · rw [hsame]
      exact h.numbered
    · rw [hmore]
      exact h.numbered.concat (hsequence.trans h.numbered.nextSequence_eq)
  ascending := hchange.ascending h.ascending
  named := by
    intro consumer held' hheld'
    rcases hchange.consumer hheld' with ⟨now, config, -, -, hnew⟩ | ⟨held, hheld, hmoves⟩
    · rw [hnew]
      exact ⟨rfl, rfl⟩
    · obtain ⟨hstream, hname⟩ := h.named consumer held hheld
      have hidentity := hmoves.identity_eq
      exact ⟨(congrArg (·.1) hidentity).trans hstream, (congrArg (·.2.1) hidentity).trans hname⟩
  consumers := by
    intro consumer held' hheld'
    rcases hchange.consumer hheld' with ⟨now, config, -, hmessages, hnew⟩ | ⟨held, hheld, hmoves⟩
    · rw [hnew, hmessages]
      exact .newConsumer h.numbered name consumer now config
    · exact (h.consumers consumer held hheld).moves h.numbered hmoves

end HeldStream.Coherent

namespace State

theorem coherent_empty : ({} : State).Coherent where
  ascending := .nil
  streams := fun _ _ hstream => nomatch hstream

theorem Coherent.after {s : State} (h : s.Coherent) (step : Step) : (s.after step).Coherent where
  ascending := ascending_after h.ascending step
  streams := by
    intro name stream' hstream'
    rcases streams_after h.ascending step with ⟨other, subjects, -, hinsert⟩ | hfollows
    · rw [hinsert, NameMap.get?_insert] at hstream'
      split at hstream'
      · rw [← Option.some.inj hstream']
        exact .new name subjects
      · exact h.streams name stream' hstream'
    · -- the stream stayed, or there was one before that changed into it
      have hahead := hfollows.ahead name
      rw [hstream'] at hahead
      generalize hbefore : s.streams.get? name = before at hahead
      cases hahead with
      | stay => exact h.streams name stream' hbefore
      | change hchange => exact (h.streams name _ hbefore).change hchange

theorem Coherent.run {s : State} (h : s.Coherent) (steps : List Step) : (s.run steps).Coherent := by
  induction steps generalizing s with
  | nil => exact h
  | cons step steps ih => exact ih (h.after step)

/-- Every state that an empty broker comes to is coherent. -/
theorem coherent_run (steps : List Step) : (({} : State).run steps).Coherent :=
  coherent_empty.run steps

end State

end JetStream.Broker.Memory

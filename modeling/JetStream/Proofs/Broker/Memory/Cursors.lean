import JetStream.Proofs.Broker.Memory.Delivered
import Mathlib.Order.Basic

/-!
# Cursors

A consumer has two cursors: its last delivery, and the floor of its acknowledgements.  Neither moves
back in any of its parts, as long as the consumer is there, whatever is delivered, published and
acknowledged meanwhile.

## Strategy

The floor is not moved along but computed anew by every acknowledgement, from what is left
unacknowledged.  That it does not fall is in the coherence of the consumer: all that is
unacknowledged is above the floor, so a floor just below the oldest of it is not below the one
before; and if nothing is left, the floor goes to the last delivery, which it is not above
(`floor_le_acknowledge`).  `moves_after` says that a step which does not end a consumer moves it, so
the rest is a case analysis of the moves and an induction over the steps.
-/

namespace JetStream.Consumer.Cursor

/-- A cursor is up to another one in both parts. -/
instance : Preorder Cursor where
  le first second := first.consumer ≤ second.consumer ∧ first.stream ≤ second.stream
  le_refl cursor := ⟨Nat.le_refl cursor.consumer, Nat.le_refl cursor.stream⟩
  le_trans _ _ _ h h' := ⟨Nat.le_trans h.1 h'.1, Nat.le_trans h.2 h'.2⟩

end JetStream.Consumer.Cursor

namespace JetStream.Broker.Memory

/-! ## Moves of a consumer -/

namespace HeldConsumer

/-- The cursors of a consumer have not moved back. -/
structure Advances (held held' : HeldConsumer) : Prop where
  delivered_le : held.info.delivered ≤ held'.info.delivered
  floor_le : held.info.ackFloor ≤ held'.info.ackFloor

variable {messages : List Stored} {stream stream' : HeldStream} {held held' held'' : HeldConsumer}

theorem Advances.still (hdelivered : held'.info.delivered = held.info.delivered)
    (hfloor : held'.info.ackFloor = held.info.ackFloor) : held.Advances held' :=
  ⟨hdelivered.ge, hfloor.ge⟩

theorem Advances.trans (h : held.Advances held') (h' : held'.Advances held'') :
    held.Advances held'' :=
  ⟨h.delivered_le.trans h'.delivered_le, h.floor_le.trans h'.floor_le⟩

/-- What is pending is later than the last delivery, and the floor is not above it. -/
theorem advances_handOut (h : held.Coherent messages) {sequence : Nat} {left : List Nat}
    (hpending : held.pending = sequence :: left) :
    held.Advances (held.handOut sequence left) := by
  have hahead := h.pending_ahead sequence (hpending ▸ List.mem_cons_self)
  have hdelivered : held.info.delivered ≤ ⟨held.info.delivered.consumer + 1, sequence⟩ :=
    ⟨Nat.le_succ _, Nat.le_of_lt hahead⟩
  refine ⟨?_, ?_⟩
  · rw [delivered_handOut]
    exact hdelivered
  · unfold handOut
    dsimp only
    split
    · -- the floor goes along with the delivery
      have hfloor : held.info.ackFloor ≤ held.info.delivered := ⟨h.floor_le.2, h.floor_le.1⟩
      exact hfloor.trans hdelivered
    · exact le_rfl

theorem unacked_acknowledge_sublist (held : HeldConsumer) (sequence : Nat) :
    (held.acknowledge sequence).unacked.Sublist held.unacked := by
  rw [unacked_acknowledge_eq]
  exact List.filter_sublist

/-- Whatever is acknowledged, what is left of the unacknowledged is above the floor. -/
theorem floor_le_acknowledge (h : held.Coherent messages) (sequence : Nat) :
    held.info.ackFloor ≤ (held.acknowledge sequence).info.ackFloor := by
  have hsublist := held.unacked_acknowledge_sublist sequence
  have hfloor : (held.acknowledge sequence).info.ackFloor = (held.acknowledge sequence).floor := rfl
  have hdelivered : (held.acknowledge sequence).info.delivered = held.info.delivered := rfl
  rw [hfloor, HeldConsumer.floor]
  cases hunacked : (held.acknowledge sequence).unacked with
  | nil =>
      rw [hdelivered]
      exact ⟨h.floor_le.2, h.floor_le.1⟩
  | cons oldest rest =>
      rw [hunacked] at hsublist
      have habove := h.unacked_above_floor oldest (hsublist.subset List.mem_cons_self)
      exact ⟨Nat.le_pred_of_lt habove.2, Nat.le_pred_of_lt habove.1⟩

theorem Change.advances (h : held.Coherent stream.messages)
    (hchange : Change stream held held') : held.Advances held' := by
  cases hchange with
  | clustered cluster => exact .still rfl rfl
  | scheduled polls => exact .still rfl rfl
  | polled =>
      unfold poll
      split
      · exact .still rfl rfl
      · split
        · exact .still rfl rfl
        · exact .still rfl rfl
  | steppedDown =>
      unfold HeldConsumer.stepDown
      split
      · exact .still rfl rfl
      · exact .still rfl rfl
  | delivered =>
      refine keeps_deliver (P := held.Advances) ?_ h (.still rfl rfl)
      intro moment sequence left hmoment hpending hadvances
      exact hadvances.trans (advances_handOut hmoment hpending)
  | acknowledged sequence => exact ⟨le_rfl, floor_le_acknowledge h sequence⟩

theorem Moves.advances (h : held.Coherent stream.messages) (hnumbered : Numbered stream.messages)
    (hmoves : Moves stream stream' held held') : held.Advances held' := by
  cases hmoves with
  | stay hmessages => exact .still rfl rfl
  | passed m hmessages hsequence => exact .still rfl rfl
  | enqueued m hmessages hsequence hwanted => exact .still rfl rfl
  | drained hmessages =>
      refine keeps_deliverUpTo (P := held.Advances) ?_ h hnumbered (.still rfl rfl) _
      intro moment sequence left hmoment hpending hadvances
      exact hadvances.trans (advances_handOut hmoment hpending)
  | changed hmessages hchange => exact hchange.advances h

end HeldConsumer

/-! ## Steps and runs -/

namespace State

variable {s : State} {stream consumer : String} {held : HeldConsumer}

/-- A step that does not end a consumer moves it. -/
theorem moves_after (h : s.Coherent) (hheld : s.held? stream consumer = some held) (step : Step)
    (hends : ¬step.ends stream consumer) :
    ∃ heldStream heldStream' held', s.streams.get? stream = some heldStream ∧
      (s.after step).held? stream consumer = some held' ∧
      HeldConsumer.Moves heldStream heldStream' held held' := by
  obtain ⟨heldStream, hstream, hconsumer⟩ := held?_eq_some_iff.mp hheld
  obtain ⟨held', hheld', -⟩ := keeps_after h hheld step hends
  obtain ⟨heldStream', hstream', hconsumer'⟩ := held?_eq_some_iff.mp hheld'
  refine ⟨heldStream, heldStream', held', hstream, hheld', ?_⟩
  rcases streams_after h.ascending step with ⟨name, subjects, hadd, hinsert⟩ | hfollows
  · -- the new stream is another one
    have hother : name ≠ stream := by
      intro hname
      refine hends ?_
      unfold Step.ends
      rw [hadd]
      exact hname
    rw [hinsert, NameMap.get?_insert, if_neg hother, hstream] at hstream'
    cases hstream'
    cases hconsumer.symm.trans hconsumer'
    exact .stay rfl
  · have hahead := hfollows.ahead stream
    rw [hstream, hstream'] at hahead
    cases hahead with
    | stay =>
        cases hconsumer.symm.trans hconsumer'
        exact .stay rfl
    | change hchange =>
        rcases hchange.consumer hconsumer' with ⟨now, config, habsent, -⟩ | ⟨held₁, hheld₁, hmoves⟩
        · rw [hconsumer] at habsent
          exact nomatch habsent
        · cases hconsumer.symm.trans hheld₁
          exact hmoves

theorem advances_after (h : s.Coherent) (hheld : s.held? stream consumer = some held) (step : Step)
    (hends : ¬step.ends stream consumer) :
    ∃ held', (s.after step).held? stream consumer = some held' ∧ held.Advances held' := by
  obtain ⟨heldStream, heldStream', held', hstream, hheld', hmoves⟩ := moves_after h hheld step hends
  obtain ⟨other, hother, hconsumer⟩ := held?_eq_some_iff.mp hheld
  cases hstream.symm.trans hother
  have hcoherent := h.streams stream heldStream hstream
  have hheldCoherent := hcoherent.consumers consumer held hconsumer
  exact ⟨held', hheld', hmoves.advances hheldCoherent hcoherent.numbered⟩

theorem advances_run (h : s.Coherent) (hheld : s.held? stream consumer = some held)
    (later : List Step) (hends : ∀ step ∈ later, ¬step.ends stream consumer) :
    ∃ held', (s.run later).held? stream consumer = some held' ∧ held.Advances held' := by
  induction later generalizing s held with
  | nil => exact ⟨held, hheld, .still rfl rfl⟩
  | cons step later ih =>
      obtain ⟨hstep, hlater⟩ := List.forall_mem_cons.mp hends
      obtain ⟨held₁, hheld₁, hadvances₁⟩ := advances_after h hheld step hstep
      obtain ⟨held₂, hheld₂, hadvances₂⟩ := ih (h.after step) hheld₁ hlater
      exact ⟨held₂, hheld₂, hadvances₁.trans hadvances₂⟩

/-- Between any two states of a run in which a consumer is there all the time, be they next to each
other or far apart, its last delivery and its floor do not move back. -/
theorem cursors_le_run (before later : List Step) {stream consumer : String} {held : HeldConsumer}
    (hheld : (({} : State).run before).held? stream consumer = some held)
    (hlater : ∀ step ∈ later, ¬step.ends stream consumer) :
    ∃ held', ((({} : State).run before).run later).held? stream consumer = some held' ∧
      held.info.delivered ≤ held'.info.delivered ∧ held.info.ackFloor ≤ held'.info.ackFloor := by
  obtain ⟨held', hheld', hadvances⟩ := advances_run (coherent_run before) hheld later hlater
  exact ⟨held', hheld', hadvances.delivered_le, hadvances.floor_le⟩

/-- Acknowledgements of a sequence that was not delivered, and of one delivery twice. -/
theorem cursors_le_run_forged :
    let before : List Step :=
      [⟨.epoch, "", .addStream "S" ["a"]⟩,
       ⟨.epoch, "", .request (.createConsumer "S" { durableName := some "D", ackPolicy := .all })⟩,
       ⟨.epoch, "", .publish "a" [] []⟩, ⟨.epoch, "", .publish "a" [] []⟩,
       ⟨.epoch, "", .request (.fetchNext "S" "D" ⟨0⟩)⟩]
    let reply (sequence : String) : Message :=
      { subject := "a", reply := some ("$JS.ACK.S.D.1." ++ sequence ++ ".1.0.0") }
    let later : List Step :=
      [⟨.epoch, "", .request (.respondEmpty (reply "7"))⟩,
       ⟨.epoch, "", .request (.fetchNext "S" "D" ⟨0⟩)⟩,
       ⟨.epoch, "", .request (.respondEmpty (reply "1"))⟩,
       ⟨.epoch, "", .request (.respondEmpty (reply "1"))⟩]
    ∃ held held', (({} : State).run before).held? "S" "D" = some held ∧
      ((({} : State).run before).run later).held? "S" "D" = some held' ∧
      held.info.delivered ≤ held'.info.delivered ∧ held.info.ackFloor ≤ held'.info.ackFloor := by
  intro before reply later
  obtain ⟨held, hheld⟩ : ∃ held, (({} : State).run before).held? "S" "D" = some held := ⟨_, rfl⟩
  have hlater : ∀ step ∈ later, ¬step.ends "S" "D" :=
    List.forall_mem_cons.mpr ⟨id, List.forall_mem_cons.mpr ⟨id, List.forall_mem_cons.mpr ⟨id,
      List.forall_mem_cons.mpr ⟨id, List.forall_mem_nil _⟩⟩⟩⟩
  obtain ⟨held', hheld', hdelivered, hfloor⟩ := cursors_le_run before later hheld hlater
  exact ⟨held, held', hheld, hheld', hdelivered, hfloor⟩

end State

end JetStream.Broker.Memory

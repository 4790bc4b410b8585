import JetStream.Broker.Memory.Operation
import JetStream.Proofs.Broker.Memory.Start

/-!
# Coherent consumers

What the broker keeps for a consumer is redundant: two lists, the counts of both, the last delivery
and the floor of the acknowledgements.  This file says how these fit together, and that all that can
happen to a consumer keeps it so.

## Strategy

`HeldConsumer.Coherent` is strong enough to be kept: the messages yet to be handed out are later
than the last delivery, the ones that are not acknowledged are not, and the floor is below all of
the latter.  So a delivery goes to the end of the list of the unacknowledged
(`noteUnacked_eq_append`), and a floor just below the first of them is still below all of them.  An
acknowledgement may be of any sequence at all, since all it does is to take entries out.
-/

namespace JetStream.Broker.Memory

open Consumer (Config)

/-! ## The numbers of messages -/

/-- The messages of a stream are numbered from 1 on. -/
def Numbered (messages : List Stored) : Prop :=
  messages.map (·.sequence) = List.range' 1 messages.length

namespace Numbered

variable {messages : List Stored}

theorem concat (hmessages : Numbered messages) {m : Stored}
    (hm : m.sequence = messages.length + 1) : Numbered (messages ++ [m]) := by
  unfold Numbered at *
  rw [List.map_append, hmessages, List.length_append, List.length_singleton, List.range'_concat,
    List.map_singleton, hm, Nat.one_mul, Nat.add_comm]

theorem pairwise (hmessages : Numbered messages) :
    (messages.map (·.sequence)).Pairwise (· < ·) := by
  rw [hmessages]
  exact List.pairwise_lt_range'

theorem bounds (hmessages : Numbered messages) {m : Stored} (hm : m ∈ messages) :
    1 ≤ m.sequence ∧ m.sequence ≤ messages.length := by
  have hmem : m.sequence ∈ List.range' 1 messages.length :=
    hmessages ▸ List.mem_map_of_mem hm
  have hrange := List.mem_range'_1.mp hmem
  omega

theorem nextSequence_eq {stream : HeldStream} (hmessages : Numbered stream.messages) :
    stream.nextSequence = stream.messages.length + 1 := by
  unfold HeldStream.nextSequence
  cases hlast : stream.messages.getLast? with
  | none =>
      have hnil : stream.messages = [] := List.getLast?_eq_none_iff.mp hlast
      rw [hnil]
      rfl
  | some m =>
      obtain ⟨before, hbefore⟩ := List.getLast?_eq_some_iff.mp hlast
      have hsplit : before.map (·.sequence) ++ [m.sequence] =
          List.range' 1 before.length ++ [1 + before.length] := by
        rw [← List.range'_1_concat]
        unfold Numbered at hmessages
        rw [hbefore, List.map_append, List.length_append] at hmessages
        exact hmessages
      have hm : m.sequence = 1 + before.length :=
        List.singleton_inj.mp (List.append_inj' hsplit rfl).2
      rw [hbefore, List.length_append, List.length_singleton]
      show m.sequence + 1 = before.length + 1 + 1
      rw [hm, Nat.add_comm 1]

end Numbered

/-- A sequence that is stored is found. -/
theorem HeldStream.exists_stored? {stream : HeldStream} {sequence : Nat}
    (h : ∃ m ∈ stream.messages, m.sequence = sequence) :
    ∃ m ∈ stream.messages, stream.stored? sequence = some m ∧ m.sequence = sequence := by
  unfold HeldStream.stored?
  cases hfind : stream.messages.find? (·.sequence = sequence) with
  | none =>
      obtain ⟨m, hm, hsequence⟩ := h
      have hne := List.find?_eq_none.mp hfind m hm
      exact absurd (decide_eq_true hsequence) hne
  | some m =>
      have hsequence := List.find?_some hfind
      exact ⟨m, List.mem_of_find?_eq_some hfind, rfl, of_decide_eq_true hsequence⟩

/-! ## The invariant of a consumer -/

/-- The sequence is that of a message of the stream that the filter lets through. -/
def IsWanted (messages : List Stored) (filter : Option String) (sequence : Nat) : Prop :=
  ∃ m ∈ messages, m.sequence = sequence ∧ Subject.isWanted filter m.subject

/-- The sequence is that of a message of the stream. -/
def IsStored (messages : List Stored) (sequence : Nat) : Prop :=
  ∃ m ∈ messages, m.sequence = sequence

/-- What is kept for a consumer fits together, and fits the messages of its stream. -/
structure HeldConsumer.Coherent (messages : List Stored) (held : HeldConsumer) : Prop where
  pending_ascending : held.pending.Pairwise (· < ·)
  pending_wanted :
    ∀ sequence ∈ held.pending, IsWanted messages held.info.config.filterSubject sequence
  pending_ahead : ∀ sequence ∈ held.pending, held.info.delivered.stream < sequence
  pending_counted : held.info.pending = held.pending.length
  delivered_le : held.info.delivered.stream ≤ messages.length
  unacked_ascending : held.unacked.Pairwise fun first second =>
    first.1 < second.1 ∧ first.2 < second.2
  unacked_stored : ∀ entry ∈ held.unacked, IsStored messages entry.1
  unacked_delivered : ∀ entry ∈ held.unacked,
    entry.1 ≤ held.info.delivered.stream ∧ entry.2 ≤ held.info.delivered.consumer
  unacked_above_floor : ∀ entry ∈ held.unacked,
    held.info.ackFloor.stream < entry.1 ∧ held.info.ackFloor.consumer < entry.2
  unacked_counted : held.info.ackPending = held.unacked.length
  floor_le : held.info.ackFloor.stream ≤ held.info.delivered.stream ∧
    held.info.ackFloor.consumer ≤ held.info.delivered.consumer
  /-- Where nothing is to be acknowledged, nothing waits for it. -/
  unacknowledged : held.info.config.ackPolicy = .none →
    held.unacked = [] ∧ held.info.ackFloor = held.info.delivered

theorem IsStored.append {messages : List Stored} {sequence : Nat}
    (h : IsStored messages sequence) (more : List Stored) :
    IsStored (messages ++ more) sequence := by
  obtain ⟨m, hm, hsequence⟩ := h
  exact ⟨m, List.mem_append_left more hm, hsequence⟩

theorem IsWanted.append {messages : List Stored} {filter : Option String} {sequence : Nat}
    (h : IsWanted messages filter sequence) (more : List Stored) :
    IsWanted (messages ++ more) filter sequence := by
  obtain ⟨m, hm, hsequence, hwanted⟩ := h
  exact ⟨m, List.mem_append_left more hm, hsequence, hwanted⟩

theorem IsWanted.isStored {messages : List Stored} {filter : Option String} {sequence : Nat}
    (h : IsWanted messages filter sequence) : IsStored messages sequence := by
  obtain ⟨m, hm, hsequence, -⟩ := h
  exact ⟨m, hm, hsequence⟩

/-- A delivery later than all that are not acknowledged goes to their end. -/
theorem noteUnacked_eq_append {sequence count : Nat} {unacked : List (Nat × Nat)}
    (h : ∀ entry ∈ unacked, entry.1 < sequence) :
    noteUnacked sequence count unacked = unacked ++ [(sequence, count)] := by
  induction unacked with
  | nil => rfl
  | cons entry rest ih =>
      obtain ⟨hentry, hrest⟩ := List.forall_mem_cons.mp h
      unfold noteUnacked
      rw [if_neg (by omega), if_neg (by omega), ih hrest]
      rfl

/-- The floor is below all that is not acknowledged, and not above the last delivery. -/
theorem HeldConsumer.floor_spec (held : HeldConsumer)
    (hascending : held.unacked.Pairwise fun first second =>
      first.1 < second.1 ∧ first.2 < second.2)
    (hdelivered : ∀ entry ∈ held.unacked,
      entry.1 ≤ held.info.delivered.stream ∧ entry.2 ≤ held.info.delivered.consumer)
    (hpositive : ∀ entry ∈ held.unacked, 0 < entry.1 ∧ 0 < entry.2) :
    (∀ entry ∈ held.unacked, held.floor.stream < entry.1 ∧ held.floor.consumer < entry.2) ∧
      held.floor.stream ≤ held.info.delivered.stream ∧
      held.floor.consumer ≤ held.info.delivered.consumer := by
  unfold HeldConsumer.floor
  cases hunacked : held.unacked with
  | nil => exact ⟨(fun _ hentry => nomatch hentry), Nat.le_refl _, Nat.le_refl _⟩
  | cons oldest rest =>
      rw [hunacked] at hascending hdelivered hpositive
      obtain ⟨hlater, -⟩ := List.pairwise_cons.mp hascending
      have holdest := hpositive oldest List.mem_cons_self
      have hbound := hdelivered oldest List.mem_cons_self
      refine ⟨?_, by show oldest.1 - 1 ≤ _; omega, by show oldest.2 - 1 ≤ _; omega⟩
      intro entry hentry
      show oldest.1 - 1 < entry.1 ∧ oldest.2 - 1 < entry.2
      rcases List.mem_cons.mp hentry with heq | hmem
      · rw [heq]
        omega
      · have hentry' := hlater entry hmem
        omega

namespace HeldConsumer

/-- What waits for its acknowledgement still does after one of this sequence. -/
def spares (policy : AckPolicy) (sequence : Nat) (entry : Nat × Nat) : Bool :=
  if policy = .all then sequence < entry.1 else entry.1 ≠ sequence

theorem unacked_acknowledge_eq (held : HeldConsumer) (sequence : Nat) :
    (held.acknowledge sequence).unacked =
      held.unacked.filter (spares held.info.config.ackPolicy sequence) := by
  unfold acknowledge spares
  dsimp only
  split
  · rfl
  · rfl

end HeldConsumer

namespace HeldConsumer.Coherent

variable {messages : List Stored} {held : HeldConsumer}

/-! ## What keeps a consumer coherent -/

theorem newConsumer (hmessages : Numbered messages) (stream name : String) (now : Instant)
    (config : Config) : (State.newConsumer stream name now messages config).Coherent messages where
  pending_ascending := pairwise_initialSequences config hmessages.pairwise
  pending_wanted := fun sequence hsequence => exists_of_mem_initialSequences hsequence
  pending_ahead := by
    intro sequence hsequence
    obtain ⟨m, hm, hm', -⟩ := exists_of_mem_initialSequences hsequence
    have hbounds := hmessages.bounds hm
    show 0 < sequence
    omega
  pending_counted := rfl
  delivered_le := Nat.zero_le _
  unacked_ascending := .nil
  unacked_stored := fun _ hentry => nomatch hentry
  unacked_delivered := fun _ hentry => nomatch hentry
  unacked_above_floor := fun _ hentry => nomatch hentry
  unacked_counted := rfl
  floor_le := ⟨Nat.le_refl 0, Nat.le_refl 0⟩
  unacknowledged := fun _ => ⟨rfl, rfl⟩

/-- A message that comes to the stream changes nothing for a consumer that does not want it. -/
theorem append (h : held.Coherent messages) (m : Stored) : held.Coherent (messages ++ [m]) :=
  { h with
    pending_wanted := fun sequence hsequence => (h.pending_wanted sequence hsequence).append [m]
    delivered_le := by
      have hle := h.delivered_le
      rw [List.length_append, List.length_singleton]
      omega
    unacked_stored := fun entry hentry => (h.unacked_stored entry hentry).append [m] }

/-- The sequence of a message that has just come is later than all others. -/
theorem enqueue (h : held.Coherent messages) (hmessages : Numbered messages) {m : Stored}
    (hm : m.sequence = messages.length + 1)
    (hwanted : Subject.isWanted held.info.config.filterSubject m.subject) :
    (held.enqueue m.sequence).Coherent (messages ++ [m]) := by
  -- what is pending is stored already, so its sequence is one of those before the new one
  have hlater : ∀ sequence ∈ held.pending, sequence < m.sequence := by
    intro sequence hsequence
    obtain ⟨stored, hstored, hsequence', -⟩ := h.pending_wanted sequence hsequence
    have hbounds := hmessages.bounds hstored
    omega
  have happend := h.append m
  refine { happend with
    pending_ascending := ?_, pending_wanted := ?_, pending_ahead := ?_, pending_counted := rfl }
  · refine List.pairwise_append.mpr ⟨h.pending_ascending, List.pairwise_singleton _ _, ?_⟩
    intro sequence hsequence other hother
    rw [List.mem_singleton.mp hother]
    exact hlater sequence hsequence
  · intro sequence hsequence
    rcases List.mem_append.mp hsequence with hpending | hnew
    · exact happend.pending_wanted sequence hpending
    · rw [List.mem_singleton.mp hnew]
      exact ⟨m, List.mem_append_right messages (List.mem_singleton_self m), rfl, hwanted⟩
  · intro sequence hsequence
    rcases List.mem_append.mp hsequence with hpending | hnew
    · exact h.pending_ahead sequence hpending
    · have hle := h.delivered_le
      rw [List.mem_singleton.mp hnew]
      show held.info.delivered.stream < m.sequence
      omega

/-- The oldest message is handed out: it becomes the last delivery, and it either waits for an
acknowledgement or takes the floor along. -/
theorem handOut (h : held.Coherent messages) (hmessages : Numbered messages) {sequence : Nat}
    {left : List Nat} (hpending : held.pending = sequence :: left) :
    (held.handOut sequence left).Coherent messages := by
  have hascending := h.pending_ascending
  rw [hpending] at hascending
  obtain ⟨hfirst, hleft⟩ := List.pairwise_cons.mp hascending
  have hmem : sequence ∈ held.pending := hpending ▸ List.mem_cons_self
  have hahead := h.pending_ahead sequence hmem
  have hstored := (h.pending_wanted sequence hmem).isStored
  have hle : sequence ≤ messages.length := by
    obtain ⟨m, hm, hsequence⟩ := hstored
    have hbounds := hmessages.bounds hm
    omega
  have hwanted : ∀ other ∈ left, IsWanted messages held.info.config.filterSubject other := by
    intro other hother
    exact h.pending_wanted other (hpending ▸ List.mem_cons_of_mem sequence hother)
  have hfloor := h.floor_le
  unfold HeldConsumer.handOut
  dsimp only
  by_cases hnone : held.info.config.ackPolicy = .none
  · rw [if_pos hnone]
    obtain ⟨hunacked, -⟩ := h.unacknowledged hnone
    refine { h with
      pending_ascending := hleft, pending_wanted := hwanted, pending_ahead := hfirst
      pending_counted := rfl, delivered_le := hle, unacked_delivered := ?_
      unacked_above_floor := ?_, floor_le := ⟨Nat.le_refl _, Nat.le_refl _⟩
      unacknowledged := fun _ => ⟨hunacked, rfl⟩ }
    · intro entry hentry
      exact nomatch hunacked ▸ hentry
    · intro entry hentry
      exact nomatch hunacked ▸ hentry
  · rw [if_neg hnone]
    -- what is not acknowledged was handed out before, and so it is not ahead of the last delivery
    have hearlier : ∀ entry ∈ held.unacked, entry.1 < sequence := by
      intro entry hentry
      have hentry' := h.unacked_delivered entry hentry
      omega
    rw [noteUnacked_eq_append hearlier]
    refine { h with
      pending_ascending := hleft, pending_wanted := hwanted, pending_ahead := hfirst
      pending_counted := rfl, delivered_le := hle, unacked_ascending := ?_
      unacked_stored := ?_, unacked_delivered := ?_, unacked_above_floor := ?_
      unacked_counted := rfl, floor_le := ?_, unacknowledged := fun h => absurd h hnone }
    · refine List.pairwise_append.mpr ⟨h.unacked_ascending, List.pairwise_singleton _ _, ?_⟩
      intro entry hentry other hother
      rw [List.mem_singleton.mp hother]
      have hentry' := h.unacked_delivered entry hentry
      exact ⟨hearlier entry hentry, Nat.lt_succ_of_le hentry'.2⟩
    · intro entry hentry
      rcases List.mem_append.mp hentry with hold | hnew
      · exact h.unacked_stored entry hold
      · rw [List.mem_singleton.mp hnew]
        exact hstored
    · intro entry hentry
      show entry.1 ≤ sequence ∧ entry.2 ≤ held.info.delivered.consumer + 1
      rcases List.mem_append.mp hentry with hold | hnew
      · have hentry' := h.unacked_delivered entry hold
        omega
      · rw [List.mem_singleton.mp hnew]
        exact ⟨Nat.le_refl _, Nat.le_refl _⟩
    · intro entry hentry
      rcases List.mem_append.mp hentry with hold | hnew
      · exact h.unacked_above_floor entry hold
      · rw [List.mem_singleton.mp hnew]
        show held.info.ackFloor.stream < sequence ∧
          held.info.ackFloor.consumer < held.info.delivered.consumer + 1
        omega
    · show held.info.ackFloor.stream ≤ sequence ∧
        held.info.ackFloor.consumer ≤ held.info.delivered.consumer + 1
      omega

/-- Entries are taken out, and the floor goes to just below the first that is left. -/
theorem acknowledge (h : held.Coherent messages) (sequence : Nat) :
    (held.acknowledge sequence).Coherent messages := by
  unfold HeldConsumer.acknowledge
  dsimp only
  generalize hrest : (if held.info.config.ackPolicy = .all then
    held.unacked.filter fun entry => decide (sequence < entry.1)
    else held.unacked.filter fun entry => decide (entry.1 ≠ sequence)) = rest
  have hsublist : rest.Sublist held.unacked := by
    rw [← hrest]
    split
    · exact List.filter_sublist
    · exact List.filter_sublist
  have hascending := h.unacked_ascending.sublist hsublist
  have hdelivered : ∀ entry ∈ rest, entry.1 ≤ held.info.delivered.stream ∧
      entry.2 ≤ held.info.delivered.consumer :=
    fun entry hentry => h.unacked_delivered entry (hsublist.subset hentry)
  -- entries are above the old floor, hence not zero, and there is room for a floor below them
  have hpositive : ∀ entry ∈ rest, 0 < entry.1 ∧ 0 < entry.2 := by
    intro entry hentry
    have habove := h.unacked_above_floor entry (hsublist.subset hentry)
    omega
  obtain ⟨habove, hle⟩ := floor_spec { held with unacked := rest } hascending hdelivered hpositive
  refine { h with
    unacked_ascending := hascending
    unacked_stored := fun entry hentry => h.unacked_stored entry (hsublist.subset hentry)
    unacked_delivered := hdelivered, unacked_above_floor := habove
    unacked_counted := rfl, floor_le := hle, unacknowledged := ?_ }
  intro hnone
  obtain ⟨hunacked, -⟩ := h.unacknowledged hnone
  have hnil : rest = [] := List.sublist_nil.mp (hunacked ▸ hsublist)
  subst hnil
  exact ⟨rfl, rfl⟩

/-- The next message that is pending is handed out, and none is lost to a failing look-up. -/
theorem deliver_eq (h : held.Coherent messages) {stream : HeldStream}
    (hstream : stream.messages = messages) {sequence : Nat} {left : List Nat}
    (hpending : held.pending = sequence :: left) :
    ∃ stored ∈ messages, stored.sequence = sequence ∧
      held.deliver stream =
        (some
          { subject := stored.subject
            reply := some ((held.handOut sequence left).lastDelivery stored).reply
            headers := stored.headers
            payload := stored.payload },
          held.handOut sequence left) := by
  have hwanted := h.pending_wanted sequence (hpending ▸ List.mem_cons_self)
  obtain ⟨stored, hmem, hstored, hsequence⟩ :=
    HeldStream.exists_stored? (hstream ▸ hwanted.isStored : IsStored stream.messages sequence)
  refine ⟨stored, hstream ▸ hmem, hsequence, ?_⟩
  unfold HeldConsumer.deliver
  rw [hpending]
  dsimp only
  rw [hstored]

theorem deliver (h : held.Coherent messages) {stream : HeldStream}
    (hmessages : Numbered messages) (hstream : stream.messages = messages) :
    (held.deliver stream).2.Coherent messages := by
  cases hpending : held.pending with
  | nil =>
      unfold HeldConsumer.deliver
      rw [hpending]
      exact h
  | cons sequence left =>
      obtain ⟨stored, -, -, hdeliver⟩ := h.deliver_eq hstream hpending
      rw [hdeliver]
      exact h.handOut hmessages hpending

theorem deliverUpTo (h : held.Coherent messages) {stream : HeldStream}
    (hmessages : Numbered messages) (hstream : stream.messages = messages) (n : Nat) :
    (held.deliverUpTo stream n).2.Coherent messages := by
  induction n generalizing held with
  | zero => exact h
  | succ n ih =>
      have hdeliver := h.deliver hmessages hstream
      unfold HeldConsumer.deliverUpTo
      split
      · rename_i held' hnone
        rw [hnone] at hdeliver
        exact hdeliver
      · rename_i message held' hsome
        rw [hsome] at hdeliver
        exact ih hdeliver

theorem poll (h : held.Coherent messages) : held.poll.Coherent messages := by
  unfold HeldConsumer.poll
  split
  · exact h
  · split
    · exact { h with }
    · exact { h with }

theorem stepDown (h : held.Coherent messages) : held.stepDown.Coherent messages := by
  unfold HeldConsumer.stepDown
  split
  · exact { h with }
  · exact h

end HeldConsumer.Coherent

end JetStream.Broker.Memory

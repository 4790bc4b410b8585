import JetStream.Proofs.Broker.Memory.Drained

/-!
# Acknowledgements in any order

Acknowledgements that reach a consumer one after another come to the same in every order and however
often each is repeated.  What they leave is what every one of them spares, and nothing else of the
consumer changes but the count of it and the floor below it.

## Strategy

An acknowledgement takes entries out and computes the count and the floor anew from what is left and
the last delivery, so the consumer after several of them is what the last one would have made of it
at once (`foldl_acknowledge`).  What is left is a filter (`unacked_foldl_acknowledge`), and whether
an entry passes it is a matter of which sequences there are among those acknowledged.
-/

namespace JetStream.Broker.Memory

/-! ## What is left of a consumer -/

namespace HeldConsumer

/-- The floor where the last delivery is known and what waits for an acknowledgement. -/
def floorBelow (delivered : Consumer.Cursor) : List (Nat × Nat) → Consumer.Cursor
  | (sequence, count) :: _ => ⟨count - 1, sequence - 1⟩
  | [] => delivered

/-- The consumer with so much left to acknowledge. -/
def leaving (held : HeldConsumer) (left : List (Nat × Nat)) : HeldConsumer :=
  { held with
    unacked := left
    info :=
      { held.info with
        ackPending := left.length
        ackFloor := floorBelow held.info.delivered left } }

variable {held : HeldConsumer} {sequences others : List Nat}

theorem floor_eq_floorBelow (held : HeldConsumer) :
    held.floor = floorBelow held.info.delivered held.unacked := by
  unfold floor
  split
  next sequence count rest hunacked => rw [hunacked, floorBelow]
  next hunacked => rw [hunacked, floorBelow]

theorem acknowledge_eq_leaving (held : HeldConsumer) (sequence : Nat) :
    held.acknowledge sequence = held.leaving (held.acknowledge sequence).unacked := by
  have hfloor := floor_eq_floorBelow { held with unacked := (held.acknowledge sequence).unacked }
  calc held.acknowledge sequence
      = { held with
          unacked := (held.acknowledge sequence).unacked
          info :=
            { held.info with
              ackPending := (held.acknowledge sequence).unacked.length
              ackFloor :=
                floor { held with unacked := (held.acknowledge sequence).unacked } } } := rfl
    _ = held.leaving (held.acknowledge sequence).unacked := by rw [hfloor]; rfl

/-- Of many acknowledgements only what they leave is to be seen. -/
theorem foldl_acknowledge (hne : sequences ≠ []) :
    sequences.foldl acknowledge held =
      held.leaving (sequences.foldl acknowledge held).unacked := by
  induction sequences generalizing held with
  | nil => exact absurd rfl hne
  | cons sequence rest ih =>
      rw [List.foldl_cons]
      cases rest with
      | nil => exact held.acknowledge_eq_leaving sequence
      -- what the first of them counts and where it puts the floor is lost with the next one
      | cons next rest =>
          rw [ih (List.cons_ne_nil next rest)]
          rfl

/-- It is of no account in which order sequences are acknowledged, and how often. -/
theorem foldl_acknowledge_congr (hne : sequences ≠ [])
    (hsame : ∀ sequence, sequence ∈ others ↔ sequence ∈ sequences) :
    others.foldl acknowledge held = sequences.foldl acknowledge held := by
  have hne' : others ≠ [] := by
    obtain ⟨sequence, hsequence⟩ := List.exists_mem_of_ne_nil sequences hne
    exact List.ne_nil_of_mem ((hsame sequence).mpr hsequence)
  have hleft : (others.foldl acknowledge held).unacked =
      (sequences.foldl acknowledge held).unacked := by
    rw [unacked_foldl_acknowledge, unacked_foldl_acknowledge]
    refine List.filter_congr fun entry _ => Bool.eq_iff_iff.mpr ?_
    simp only [List.all_eq_true, hsame]
  rw [foldl_acknowledge hne', foldl_acknowledge hne, hleft]

/-! ## What is left, by the policy -/

/-- Where each message is acknowledged by itself, all that was not acknowledged is left. -/
theorem unacked_foldl_of_explicit (hpolicy : held.info.config.ackPolicy = .explicit) :
    (sequences.foldl acknowledge held).unacked =
      held.unacked.filter fun entry => entry.1 ∉ sequences := by
  rw [unacked_foldl_acknowledge, hpolicy]
  refine List.filter_congr fun entry _ => Bool.eq_iff_iff.mpr ?_
  rw [List.all_eq_true, decide_eq_true_eq]
  unfold spares
  simp only [reduceCtorEq, if_false, decide_eq_true_eq]
  constructor
  · intro hspared hmem
    exact hspared entry.1 hmem rfl
  · rintro hnot sequence hsequence rfl
    exact hnot hsequence

/-- Where a message stands for all before it, all after the largest sequence is left. -/
theorem unacked_foldl_of_all (hpolicy : held.info.config.ackPolicy = .all) {largest : Nat}
    (hmem : largest ∈ sequences) (hlargest : ∀ sequence ∈ sequences, sequence ≤ largest) :
    (sequences.foldl acknowledge held).unacked =
      held.unacked.filter fun entry => largest < entry.1 := by
  rw [unacked_foldl_acknowledge, hpolicy]
  refine List.filter_congr fun entry _ => Bool.eq_iff_iff.mpr ?_
  rw [List.all_eq_true, decide_eq_true_eq]
  unfold spares
  simp only [if_true, decide_eq_true_eq]
  constructor
  · intro hspared
    exact hspared largest hmem
  · intro habove sequence hsequence
    exact Nat.lt_of_le_of_lt (hlargest sequence hsequence) habove

/-- Where nothing is to be acknowledged, acknowledgements change nothing. -/
theorem Coherent.leaving_eq_self {messages : List Stored} (h : held.Coherent messages)
    (hpolicy : held.info.config.ackPolicy = .none) : held.leaving held.unacked = held := by
  obtain ⟨hunacked, hfloor⟩ := h.unacknowledged hpolicy
  have hfloor' : floorBelow held.info.delivered held.unacked = held.info.ackFloor := by
    rw [hunacked, hfloor, floorBelow]
  unfold leaving
  rw [← h.unacked_counted, hfloor']

theorem unacked_foldl_of_none {messages : List Stored} (h : held.Coherent messages)
    (hpolicy : held.info.config.ackPolicy = .none) :
    (sequences.foldl acknowledge held).unacked = held.unacked := by
  rw [unacked_foldl_acknowledge, (h.unacknowledged hpolicy).1, List.filter_nil]

end HeldConsumer

/-! ## Acknowledgements of one consumer -/

namespace State

variable {s : State} {stream consumer : String} {held : HeldConsumer}

/-- The message can be acknowledged, and its address tells of a delivery for the consumer. -/
def Acknowledges (s : State) (stream consumer : String) (message : Message) : Prop :=
  (s.respondEmpty message).1 = .ok () ∧ (deliveredTo? stream consumer message).isSome

instance (s : State) (stream consumer : String) (message : Message) :
    Decidable (s.Acknowledges stream consumer message) :=
  inferInstanceAs (Decidable (_ ∧ _))

/-- The sequences that messages tell of for the consumer, whether these were delivered or not. -/
def toldOf (stream consumer : String) (messages : List Message) : List Nat :=
  messages.filterMap (deliveredTo? stream consumer)

theorem respondEmpty_eq_ok_iff {message : Message} :
    (s.respondEmpty message).1 = .ok () ↔ message.reply.isSome ∧ s.failsAcks = false := by
  constructor
  · intro hanswer
    unfold respondEmpty Message.replySubject at hanswer
    cases hreply : message.reply with
    | none =>
        rw [hreply] at hanswer
        exact nomatch hanswer
    | some reply =>
        refine ⟨rfl, Bool.eq_false_iff.mpr fun hfails => ?_⟩
        rw [hreply] at hanswer
        dsimp only at hanswer
        rw [if_pos hfails] at hanswer
        exact nomatch hanswer
  · rintro ⟨hreply, hworks⟩
    exact (respondEmpty_eq_ok hreply hworks).1

theorem held?_acknowledgeAll_of_acknowledges {messages : List Message} (hne : messages ≠ [])
    (hall : ∀ message ∈ messages, s.Acknowledges stream consumer message)
    (hheld : s.held? stream consumer = some held) :
    toldOf stream consumer messages ≠ [] ∧
      (s.acknowledgeAll messages).held? stream consumer =
        some ((toldOf stream consumer messages).foldl HeldConsumer.acknowledge held) := by
  obtain ⟨message, hmessage⟩ := List.exists_mem_of_ne_nil messages hne
  obtain ⟨sequence, hsequence⟩ := Option.isSome_iff_exists.mp (hall message hmessage).2
  have hworks := (respondEmpty_eq_ok_iff.mp (hall message hmessage).1).2
  have hreplies : ∀ message ∈ messages, message.reply.isSome :=
    fun message hmem => (respondEmpty_eq_ok_iff.mp (hall message hmem).1).1
  refine ⟨List.ne_nil_of_mem (List.mem_filterMap.mpr ⟨message, hmessage, hsequence⟩), ?_⟩
  rw [held?_acknowledgeAll hreplies hworks, hheld]
  rfl

/-- Acknowledgements of deliveries for one consumer, whatever sequences these tell of, leave less of
what waited for one, by the policy, and a count and a floor that follow from what is left and the
last delivery.  Others for the same sequences leave the same, and so do these in another order. -/
theorem acknowledgeAll_any_order (before : List Step) {messages : List Message}
    (hheld : (({} : State).run before).held? stream consumer = some held) (hne : messages ≠ [])
    (hall : ∀ message ∈ messages,
      (({} : State).run before).Acknowledges stream consumer message) :
    let s := ({} : State).run before
    let sequences := toldOf stream consumer messages
    (∃ left, (s.acknowledgeAll messages).held? stream consumer = some (held.leaving left) ∧
      (held.info.config.ackPolicy = .explicit →
        left = held.unacked.filter fun entry => entry.1 ∉ sequences) ∧
      (held.info.config.ackPolicy = .all →
        ∃ largest ∈ sequences, (∀ sequence ∈ sequences, sequence ≤ largest) ∧
          left = held.unacked.filter fun entry => largest < entry.1) ∧
      (held.info.config.ackPolicy = .none → held.leaving left = held)) ∧
    (∀ others : List Message, (∀ message ∈ others, s.Acknowledges stream consumer message) →
      (∀ sequence, sequence ∈ toldOf stream consumer others ↔ sequence ∈ sequences) →
      (s.acknowledgeAll others).held? stream consumer =
        (s.acknowledgeAll messages).held? stream consumer) ∧
    ∀ others : List Message, others.Perm messages →
      (s.acknowledgeAll others).held? stream consumer =
        (s.acknowledgeAll messages).held? stream consumer := by
  intro s sequences
  obtain ⟨heldStream, hstream, hconsumer⟩ := held?_eq_some_iff.mp hheld
  have hcoherent : held.Coherent heldStream.messages :=
    ((coherent_run before).streams stream heldStream hstream).consumers consumer held hconsumer
  obtain ⟨hsequences, hafter⟩ := held?_acknowledgeAll_of_acknowledges hne hall hheld
  have hsame : ∀ others : List Message,
      (∀ message ∈ others, s.Acknowledges stream consumer message) →
      (∀ sequence, sequence ∈ toldOf stream consumer others ↔ sequence ∈ sequences) →
      (s.acknowledgeAll others).held? stream consumer =
        (s.acknowledgeAll messages).held? stream consumer := by
    intro others hothers hset
    -- the acknowledgements are of some sequence, so the others are too
    have hne' : others ≠ [] := by
      rintro rfl
      obtain ⟨sequence, hsequence⟩ := List.exists_mem_of_ne_nil _ hsequences
      exact List.not_mem_nil ((hset sequence).mpr hsequence)
    obtain ⟨-, hafter'⟩ := held?_acknowledgeAll_of_acknowledges hne' hothers hheld
    rw [hafter', hafter, HeldConsumer.foldl_acknowledge_congr hsequences hset]
  refine ⟨⟨(sequences.foldl HeldConsumer.acknowledge held).unacked, ?_, ?_, ?_, ?_⟩, hsame, ?_⟩
  · rw [hafter, ← HeldConsumer.foldl_acknowledge hsequences]
  · exact HeldConsumer.unacked_foldl_of_explicit
  · intro hpolicy
    obtain ⟨largest, hlargest⟩ := Option.isSome_iff_exists.mp
      (List.isSome_max?_of_ne_nil hsequences)
    obtain ⟨hmem, hmax⟩ := List.max?_eq_some_iff.mp hlargest
    exact ⟨largest, hmem, hmax, HeldConsumer.unacked_foldl_of_all hpolicy hmem hmax⟩
  · intro hpolicy
    rw [HeldConsumer.unacked_foldl_of_none hcoherent hpolicy, hcoherent.leaving_eq_self hpolicy]
  · intro others hperm
    refine hsame others (fun message hmem => hall message (hperm.mem_iff.mp hmem)) ?_
    intro sequence
    exact (hperm.filterMap (deliveredTo? stream consumer)).mem_iff

/-- Acknowledgements of a delivery, of one that never was and of one twice, in two orders. -/
theorem acknowledgeAll_any_order_forged :
    let before : List Step :=
      [⟨.epoch, "", .addStream "S" ["a"]⟩,
       ⟨.epoch, "", .request (.createConsumer "S"
          { durableName := some "D", ackPolicy := .explicit })⟩,
       ⟨.epoch, "", .publish "a" [] []⟩, ⟨.epoch, "", .publish "a" [] []⟩,
       ⟨.epoch, "", .request (.fetchNext "S" "D" ⟨0⟩)⟩,
       ⟨.epoch, "", .request (.fetchNext "S" "D" ⟨0⟩)⟩]
    let reply (sequence : String) : Message :=
      { subject := "a", reply := some ("$JS.ACK.S.D.1." ++ sequence ++ ".1.0.0") }
    let s := ({} : State).run before
    ∃ held left, s.held? "S" "D" = some held ∧ held.unacked = [(1, 1), (2, 2)] ∧
      (s.acknowledgeAll [reply "2", reply "7", reply "2"]).held? "S" "D" =
        some (held.leaving left) ∧
      left = held.unacked.filter (fun entry => entry.1 ∉ [2, 7, 2]) ∧
      (s.acknowledgeAll [reply "7", reply "2", reply "2"]).held? "S" "D" =
        (s.acknowledgeAll [reply "2", reply "7", reply "2"]).held? "S" "D" ∧
      (s.acknowledgeAll [reply "7", reply "2"]).held? "S" "D" =
        (s.acknowledgeAll [reply "2", reply "7", reply "2"]).held? "S" "D" := by
  intro before reply s
  obtain ⟨held, hheld, hunacked, hpolicy⟩ : ∃ held, s.held? "S" "D" = some held ∧
      held.unacked = [(1, 1), (2, 2)] ∧ held.info.config.ackPolicy = .explicit :=
    ⟨_, rfl, rfl, rfl⟩
  have hall : ∀ message ∈ [reply "2", reply "7", reply "2"],
      s.Acknowledges "S" "D" message := by
    decide
  have hothers : ∀ message ∈ [reply "7", reply "2"], s.Acknowledges "S" "D" message := by
    decide
  obtain ⟨⟨left, hafter, hexplicit, -, -⟩, hsame, hperm⟩ :=
    acknowledgeAll_any_order before hheld (List.cons_ne_nil _ _) hall
  have htold : toldOf "S" "D" [reply "2", reply "7", reply "2"] = [2, 7, 2] := by decide
  have htold' : toldOf "S" "D" [reply "7", reply "2"] = [7, 2] := by decide
  rw [htold] at hexplicit hsame
  refine ⟨held, left, hheld, hunacked, hafter, hexplicit hpolicy, hperm _ ?_, hsame _ hothers ?_⟩
  · exact List.Perm.swap _ _ _
  · intro sequence
    rw [htold']
    simp [or_comm]

end State

end JetStream.Broker.Memory

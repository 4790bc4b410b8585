import JetStream.Proofs.Broker.Memory.Acknowledged
import Mathlib.Data.List.Forall2

/-!
# Queues drained and acknowledged

A subscription hands out all that is pending for the consumers that push to its subject, whichever
streams they belong to.  When each of these messages is then acknowledged, in the order in which
they came, every acknowledgement finds its consumer among all of them.

## Strategy

* Of a single consumer, `DrainsTo` says what handing out everything that is pending comes to: the
  messages tell of the pending sequences one by one, and these then wait for acknowledgements.
* An acknowledgement changes no consumer but the one that the message tells of.  So of many
  acknowledgements a consumer sees those of the sequences that are told of it
  (`held?_acknowledgeAll`), and from what waits they take out what each of them takes out
  (`unacked_foldl_acknowledge`).
* All messages of a subscription together tell of a consumer just its own pending sequences
  (`filterMap_subscribe`), because names are not repeated.
-/

namespace JetStream.Broker.Memory

/-! ## What messages tell of -/

/-- The address of a message tells of the delivery of a sequence for a consumer. -/
def TellsOf (stream consumer : String) (message : Message) (sequence : Nat) : Prop :=
  ∃ details, message.metadata? = some details ∧ details.stream = stream ∧
    details.consumer = consumer ∧ details.streamSequence = sequence

/-- Messages that tell of deliveries for one consumer tell of none for another. -/
theorem filterMap_deliveredTo? {stream consumer : String} {messages : List Message}
    {sequences : List Nat} (h : List.Forall₂ (TellsOf stream consumer) messages sequences)
    (stream' consumer' : String) :
    messages.filterMap (deliveredTo? stream' consumer') =
      if stream = stream' ∧ consumer = consumer' then sequences else [] := by
  induction h with
  | nil => simp
  | cons hfirst _ ih =>
      obtain ⟨details, hmetadata, rfl, rfl, rfl⟩ := hfirst
      rw [List.filterMap_cons, deliveredTo?_of_metadata? hmetadata, ih]
      by_cases hsame : details.stream = stream' ∧ details.consumer = consumer'
      · simp [hsame]
      · simp [hsame]

theorem isSome_reply_of_tellsOf {stream consumer : String} {messages : List Message}
    {sequences : List Nat} (h : List.Forall₂ (TellsOf stream consumer) messages sequences) :
    ∀ message ∈ messages, message.reply.isSome := by
  induction h with
  | nil => exact List.forall_mem_nil _
  | cons hfirst _ ih =>
      obtain ⟨details, hmetadata, -⟩ := hfirst
      obtain ⟨reply, hreply, -⟩ := Option.bind_eq_some_iff.mp hmetadata
      exact List.forall_mem_cons.mpr ⟨Option.isSome_of_eq_some hreply, ih⟩

/-! ## Handing out all that is pending -/

namespace HeldConsumer

/-- All that was pending is handed out, and now waits for acknowledgements if there are any. -/
structure DrainsTo (held : HeldConsumer) (messages : List Message) (held' : HeldConsumer) :
    Prop where
  identity_eq : held'.identity = held.identity
  pending : held'.pending = []
  told : List.Forall₂ (TellsOf held.info.streamName held.info.name) messages held.pending
  unacked : held.info.config.ackPolicy ≠ .none →
    ∃ counts, held'.unacked = held.unacked ++ counts ∧ counts.map (·.1) = held.pending

variable {stream : HeldStream} {held : HeldConsumer}

theorem unacked_handOut {messages : List Stored} (h : held.Coherent messages) {sequence : Nat}
    {left : List Nat} (hpending : held.pending = sequence :: left)
    (hpolicy : held.info.config.ackPolicy ≠ .none) :
    (held.handOut sequence left).unacked =
      held.unacked ++ [(sequence, held.info.delivered.consumer + 1)] := by
  have hearlier : ∀ entry ∈ held.unacked, entry.1 < sequence := by
    intro entry hentry
    have hahead := h.pending_ahead sequence (hpending ▸ List.mem_cons_self)
    have hdelivered := h.unacked_delivered entry hentry
    omega
  unfold handOut
  dsimp only
  rw [if_neg hpolicy, noteUnacked_eq_append hearlier]

theorem drainsTo_deliverUpTo (h : held.Coherent stream.messages)
    (hnumbered : Numbered stream.messages) (hcounted : held.IsCounted)
    (hbound : stream.messages.length ≤ Text.maxUnsigned64)
    (hstream : '.' ∉ held.info.streamName.toList) (hname : '.' ∉ held.info.name.toList) {n : Nat}
    (hn : held.pending.length = n) :
    held.DrainsTo (held.deliverUpTo stream n).1 (held.deliverUpTo stream n).2 := by
  induction n generalizing held with
  | zero =>
      have hnil : held.pending = [] := List.length_eq_zero_iff.mp hn
      exact {
        identity_eq := rfl
        pending := hnil
        told := hnil ▸ .nil
        unacked := fun _ => ⟨[], (List.append_nil _).symm, hnil.symm⟩ }
  | succ n ih =>
      obtain ⟨sequence, left, hpending⟩ := List.exists_cons_of_length_eq_add_one hn
      obtain ⟨stored, hstored, hsequence, hdeliver⟩ := h.deliver_eq rfl hpending
      have hidentity := held.identity_handOut sequence left
      have hcoherent := h.handOut hnumbered hpending
      have hcounted' := isCounted_handOut h hpending hcounted
      have hleft := held.pending_handOut sequence left
      have hunacked := unacked_handOut h hpending
      rw [deliverUpTo_of_deliver hdeliver]
      generalize held.handOut sequence left = held₁ at hidentity hcoherent hcounted' hleft hunacked ⊢
      -- what the consumer is called and what it acknowledges is as before
      have hstreamName : held₁.info.streamName = held.info.streamName := congrArg (·.1) hidentity
      have hheldName : held₁.info.name = held.info.name := congrArg (·.2.1) hidentity
      have hconfig : held₁.info.config = held.info.config := congrArg (·.2.2) hidentity
      have hlength : held₁.pending.length = n := by
        rw [hpending, List.length_cons] at hn
        rw [hleft]
        omega
      rw [← hstreamName] at hstream
      rw [← hheldName] at hname
      have hrest := ih hcoherent hcounted' hstream hname hlength
      obtain ⟨time, -, hparse⟩ :=
        parse?_lastDelivery hcoherent hnumbered hcounted' hstored hbound hstream hname
      refine ⟨hrest.identity_eq.trans hidentity, hrest.pending, ?_, ?_⟩
      · have htold := hrest.told
        rw [hstreamName, hheldName, hleft] at htold
        rw [hpending]
        exact .cons ⟨_, (metadata?_of_reply rfl).trans hparse, hstreamName, hheldName,
          hsequence⟩ htold
      · intro hpolicy
        obtain ⟨counts, hcounts, hsequences⟩ := hrest.unacked (hconfig ▸ hpolicy)
        refine ⟨(sequence, held.info.delivered.consumer + 1) :: counts, ?_, ?_⟩
        · rw [hcounts, hunacked hpolicy, List.append_assoc]
          rfl
        · rw [List.map_cons, hsequences, hleft, hpending]

/-! ## Many acknowledgements -/

theorem pending_foldl_acknowledge (held : HeldConsumer) (sequences : List Nat) :
    (sequences.foldl acknowledge held).pending = held.pending := by
  induction sequences generalizing held with
  | nil => rfl
  | cons sequence rest ih => exact ih (held.acknowledge sequence)

/-- What is left is what every one of the acknowledgements spares. -/
theorem unacked_foldl_acknowledge (held : HeldConsumer) (sequences : List Nat) :
    (sequences.foldl acknowledge held).unacked =
      held.unacked.filter fun entry =>
        sequences.all fun sequence => spares held.info.config.ackPolicy sequence entry := by
  induction sequences generalizing held with
  | nil => simp
  | cons sequence rest ih =>
      have hpolicy : (held.acknowledge sequence).info.config = held.info.config := rfl
      rw [List.foldl_cons, ih, unacked_acknowledge_eq, hpolicy, List.filter_filter]
      refine List.filter_congr fun entry _ => ?_
      rw [List.all_cons, Bool.and_comm]

/-- What waits for an acknowledgement after all that was pending has been handed out and
acknowledged: under the policy that a message stands for all before it nothing, if there was a
message, and otherwise what waited before. -/
theorem DrainsTo.unacked_foldl {messages : List Stored} {handed : List Message}
    {held' : HeldConsumer} (h : held.DrainsTo handed held') (hcoherent : held.Coherent messages)
    (hpolicy : held.info.config.ackPolicy ≠ .none) :
    (held.pending.foldl acknowledge held').unacked =
      if held.info.config.ackPolicy = .all ∧ held.pending ≠ [] then [] else held.unacked := by
  have hconfig : held'.info.config = held.info.config := congrArg (·.2.2) h.identity_eq
  obtain ⟨counts, hcounts, hsequences⟩ := h.unacked hpolicy
  -- what waited before is older than what was pending
  have hearlier : ∀ entry ∈ held.unacked, ∀ sequence ∈ held.pending, entry.1 < sequence := by
    intro entry hentry sequence hsequence
    have hdelivered := hcoherent.unacked_delivered entry hentry
    have hahead := hcoherent.pending_ahead sequence hsequence
    omega
  have hnew : ∀ entry ∈ counts, held.pending.all
      (fun sequence => spares held.info.config.ackPolicy sequence entry) = false := by
    intro entry hentry
    refine List.all_eq_false.mpr ⟨entry.1, hsequences ▸ List.mem_map_of_mem hentry, ?_⟩
    unfold spares
    split <;> simp
  rw [unacked_foldl_acknowledge, hconfig, hcounts, List.filter_append]
  have hnone : (counts.filter fun entry => held.pending.all fun sequence =>
      spares held.info.config.ackPolicy sequence entry) = [] :=
    List.filter_eq_nil_iff.mpr fun entry hentry => Bool.eq_false_iff.mp (hnew entry hentry)
  rw [hnone, List.append_nil]
  split
  next hall =>
    obtain ⟨sequence, hsequence⟩ := List.exists_mem_of_ne_nil _ hall.2
    refine List.filter_eq_nil_iff.mpr fun entry hentry hspared => ?_
    have hspares := List.all_eq_true.mp hspared sequence hsequence
    unfold spares at hspares
    rw [if_pos hall.1, decide_eq_true_eq] at hspares
    exact Nat.lt_asymm hspares (hearlier entry hentry sequence hsequence)
  next hrest =>
    refine List.filter_eq_self.mpr fun entry hentry => List.all_eq_true.mpr ?_
    intro sequence hsequence
    unfold spares
    rw [if_neg (fun hall => hrest ⟨hall, List.ne_nil_of_mem hsequence⟩), decide_eq_true_eq]
    exact Nat.ne_of_lt (hearlier entry hentry sequence hsequence)

/-- What is kept for a consumer before a subscription to a subject, and after all messages of the
subscription were acknowledged. -/
structure Drained (subject : String) (held held' : HeldConsumer) : Prop where
  pending : held.info.config.deliverSubject = some subject → held'.pending = []
  explicit : held.info.config.deliverSubject = some subject →
    held.info.config.ackPolicy = .explicit → held'.unacked = held.unacked
  all : held.info.config.deliverSubject = some subject → held.info.config.ackPolicy = .all →
    held'.unacked = if held.pending = [] then held.unacked else []
  elsewhere : held.info.config.deliverSubject ≠ some subject → held' = held

theorem Drained.untouched {subject : String} (held : HeldConsumer)
    (helsewhere : held.info.config.deliverSubject ≠ some subject) : held.Drained subject held where
  pending := fun hpushed => absurd hpushed helsewhere
  explicit := fun hpushed => absurd hpushed helsewhere
  all := fun hpushed => absurd hpushed helsewhere
  elsewhere := fun _ => rfl

theorem DrainsTo.drained {messages : List Stored} {handed : List Message} {held' : HeldConsumer}
    (h : held.DrainsTo handed held') (hcoherent : held.Coherent messages) {subject : String}
    (hpushed : held.info.config.deliverSubject = some subject) :
    held.Drained subject (held.pending.foldl acknowledge held') where
  pending := fun _ => by rw [pending_foldl_acknowledge, h.pending]
  explicit := fun _ hexplicit => by
    have hpolicy : held.info.config.ackPolicy ≠ .none := by simp [hexplicit]
    rw [h.unacked_foldl hcoherent hpolicy, if_neg (by simp [hexplicit])]
  all := fun _ hall => by
    have hpolicy : held.info.config.ackPolicy ≠ .none := by simp [hall]
    rw [h.unacked_foldl hcoherent hpolicy]
    by_cases hpending : held.pending = []
    · simp [hpending]
    · simp [hpending, hall]
  elsewhere := fun hnot => absurd hpushed hnot

end HeldConsumer

/-! ## Acknowledgements that find their consumer -/

namespace State

variable {s : State}

/-- Every message is acknowledged, in order. -/
def acknowledgeAll (s : State) (messages : List Message) : State :=
  messages.foldl (fun s message => (s.respondEmpty message).2) s

/-- Of many acknowledgements a consumer sees those of its own deliveries. -/
theorem held?_acknowledgeAll {messages : List Message}
    (hreplies : ∀ message ∈ messages, message.reply.isSome) (hworks : s.failsAcks = false)
    (stream consumer : String) :
    (s.acknowledgeAll messages).held? stream consumer =
      (s.held? stream consumer).map fun held =>
        (messages.filterMap (deliveredTo? stream consumer)).foldl
          HeldConsumer.acknowledge held := by
  induction messages generalizing s with
  | nil => simp [acknowledgeAll]
  | cons message rest ih =>
      obtain ⟨hreply, hreplies'⟩ := List.forall_mem_cons.mp hreplies
      have hafter := (respondEmpty_eq_ok hreply hworks).2
      have hrest := ih hreplies' hafter
      unfold acknowledgeAll at hrest ⊢
      rw [List.foldl_cons, hrest, held?_respondEmpty hreply hworks, Option.map_map]
      refine congrArg (fun f => Option.map f _) (funext fun held => ?_)
      cases htold : deliveredTo? stream consumer message with
      | none => simp [htold]
      | some sequence => simp [htold]

/-! ## A subscription -/

/-- How many messages are pending for the consumers that push to a subject. -/
def pendingFor (s : State) (subject : String) : Nat :=
  (s.streams.flatMap fun stream => stream.2.consumers.flatMap fun consumer =>
    if consumer.2.info.config.deliverSubject = some subject then consumer.2.pending else []).length

/-- Names can be told apart in the addresses of deliveries, and sequences fit 64 bits. -/
def IsAddressable (s : State) : Prop :=
  ∀ stream ∈ s.streams, '.' ∉ stream.1.toList ∧
    stream.2.messages.length ≤ Text.maxUnsigned64 ∧
    ∀ consumer ∈ stream.2.consumers, '.' ∉ consumer.1.toList

instance (s : State) : Decidable s.IsAddressable :=
  inferInstanceAs (Decidable (∀ stream ∈ s.streams, _ ∧ _ ∧ _))

variable {stream consumer : String} {heldStream : HeldStream} {held : HeldConsumer}

section Subscription

variable {subject : String} (hs : s.Coherent)
  (hcounted : ∀ {stream consumer held}, s.held? stream consumer = some held → held.IsCounted)
  (haddressable : s.IsAddressable)
include hs hcounted haddressable

/-- What is pushed for a consumer is all that is pending for it. -/
theorem drainsTo_deliverAll (hstream : s.streams.get? stream = some heldStream)
    (hconsumer : heldStream.consumers.get? consumer = some held) :
    held.DrainsTo (held.deliverAll heldStream).1 (held.deliverAll heldStream).2 := by
  have hcoherent := hs.streams stream heldStream hstream
  have hheld := held?_eq_some_iff.mpr ⟨heldStream, hstream, hconsumer⟩
  obtain ⟨hstreamName, hbound, hnames⟩ := haddressable _ (NameMap.mem_of_get? hstream)
  obtain ⟨hheldStream, hheldName⟩ := hcoherent.named consumer held hconsumer
  exact HeldConsumer.drainsTo_deliverUpTo (hcoherent.consumers consumer held hconsumer)
    hcoherent.numbered (hcounted hheld) hbound (hheldStream ▸ hstreamName)
    (hheldName ▸ hnames _ (NameMap.mem_of_get? hconsumer)) rfl

/-- What is pushed for a consumer tells of its own pending sequences, and of no other consumer. -/
theorem filterMap_pushedTo (hstream : s.streams.get? stream = some heldStream)
    (hconsumer : heldStream.consumers.get? consumer = some held) (stream' consumer' : String) :
    (s.pushedTo stream consumer subject).filterMap (deliveredTo? stream' consumer') =
      if (stream = stream' ∧ consumer = consumer') ∧
          held.info.config.deliverSubject = some subject then held.pending
      else [] := by
  obtain ⟨hheldStream, hheldName⟩ :=
    (hs.streams stream heldStream hstream).named consumer held hconsumer
  rw [pushedTo_eq hstream hconsumer]
  by_cases hpushed : held.info.config.deliverSubject = some subject
  · have htold := (drainsTo_deliverAll hs hcounted haddressable hstream hconsumer).told
    rw [if_pos hpushed, filterMap_deliveredTo? htold, hheldStream, hheldName]
    simp [hpushed]
  · rw [if_neg hpushed, if_neg fun h => hpushed h.2]
    rfl

/-- The messages of a subscription are as many as were pending, and all can be acknowledged. -/
theorem length_subscribe (hraw : (s.raw.get? subject).getD [] = []) :
    (s.subscribe subject).1.length = s.pendingFor subject ∧
      ∀ message ∈ (s.subscribe subject).1, message.reply.isSome := by
  have hpushed : ∀ stream ∈ s.streams, ∀ consumer ∈ stream.2.consumers,
      (s.pushedTo stream.1 consumer.1 subject).length =
          (if consumer.2.info.config.deliverSubject = some subject then consumer.2.pending
            else []).length ∧
        ∀ message ∈ s.pushedTo stream.1 consumer.1 subject, message.reply.isSome := by
    intro stream hstream consumer hconsumer
    have hget := NameMap.get?_of_mem hs.ascending hstream
    have hget' := NameMap.get?_of_mem (hs.streams _ _ hget).ascending hconsumer
    have htold := (drainsTo_deliverAll hs hcounted haddressable hget hget').told
    rw [pushedTo_eq hget hget']
    split
    · exact ⟨htold.length_eq, isSome_reply_of_tellsOf htold⟩
    · exact ⟨rfl, List.forall_mem_nil _⟩
  rw [subscribe_fst hs, hraw, List.nil_append]
  constructor
  · unfold pendingFor
    rw [List.length_flatMap, List.length_flatMap]
    refine congrArg List.sum (List.map_congr_left fun stream hstream => ?_)
    rw [List.length_flatMap, List.length_flatMap]
    exact congrArg List.sum (List.map_congr_left fun consumer hconsumer =>
      (hpushed stream hstream consumer hconsumer).1)
  · intro message hmessage
    obtain ⟨stream, hstream, hmessage⟩ := List.mem_flatMap.mp hmessage
    obtain ⟨consumer, hconsumer, hmessage⟩ := List.mem_flatMap.mp hmessage
    exact (hpushed stream hstream consumer hconsumer).2 message hmessage

/-- The messages of a subscription tell of a consumer what was pending for it, if it pushes to the
subject. -/
theorem filterMap_subscribe (hraw : (s.raw.get? subject).getD [] = [])
    (hstream : s.streams.get? stream = some heldStream)
    (hconsumer : heldStream.consumers.get? consumer = some held) :
    (s.subscribe subject).1.filterMap (deliveredTo? stream consumer) =
      if held.info.config.deliverSubject = some subject then held.pending else [] := by
  have hcoherent := hs.streams stream heldStream hstream
  -- what is pushed for consumers of other streams, or for others of this one, tells of others
  have hstreams : ∀ other ∈ s.streams, other.1 ≠ stream →
      (other.2.consumers.flatMap fun entry => s.pushedTo other.1 entry.1 subject).filterMap
        (deliveredTo? stream consumer) = [] := by
    intro other hother hne
    have hget := NameMap.get?_of_mem hs.ascending hother
    rw [List.filterMap_flatMap, List.flatMap_eq_nil_iff]
    intro entry hentry
    have hget' := NameMap.get?_of_mem (hs.streams _ _ hget).ascending hentry
    rw [filterMap_pushedTo hs hcounted haddressable hget hget', if_neg fun h => hne h.1.1]
  have hconsumers : ∀ entry ∈ heldStream.consumers, entry.1 ≠ consumer →
      (s.pushedTo stream entry.1 subject).filterMap (deliveredTo? stream consumer) =
        [] := by
    intro entry hentry hne
    have hget := NameMap.get?_of_mem hcoherent.ascending hentry
    rw [filterMap_pushedTo hs hcounted haddressable hstream hget, if_neg fun h => hne h.1.2]
  rw [subscribe_fst hs, hraw, List.nil_append, List.filterMap_flatMap,
    NameMap.flatMap_eq_of_get? hs.ascending hstreams, hstream, Option.map_some, Option.getD_some,
    List.filterMap_flatMap, NameMap.flatMap_eq_of_get? hcoherent.ascending hconsumers, hconsumer,
    Option.map_some, Option.getD_some,
    filterMap_pushedTo hs hcounted haddressable hstream hconsumer]
  simp

/-- Every consumer is drained when all messages of a subscription are acknowledged. -/
theorem drained_subscribe (hraw : (s.raw.get? subject).getD [] = [])
    (hworks : s.failsAcks = false) (stream consumer : String) :
    Option.Rel (HeldConsumer.Drained subject) (s.held? stream consumer)
      (((s.subscribe subject).2.acknowledgeAll (s.subscribe subject).1).held? stream consumer) := by
  have hworks' : (s.subscribe subject).2.failsAcks = false := hworks
  have hreplies := (length_subscribe hs hcounted haddressable hraw).2
  rw [held?_acknowledgeAll hreplies hworks', held?_subscribe]
  cases hheld : s.held? stream consumer with
  | none =>
      rw [Option.bind_eq_none_iff.mpr fun heldStream hstream => ?_]
      · exact .none
      · rw [held?, hstream, Option.bind_some] at hheld
        rw [hheld]
        rfl
  | some held =>
      obtain ⟨heldStream, hstream, hconsumer⟩ := held?_eq_some_iff.mp hheld
      have hcoherent := (hs.streams stream heldStream hstream).consumers consumer held hconsumer
      have hdrains := drainsTo_deliverAll hs hcounted haddressable hstream hconsumer
      rw [hstream, Option.bind_some, hconsumer, Option.map_some, Option.map_some,
        filterMap_subscribe hs hcounted haddressable hraw hstream hconsumer]
      refine .some ?_
      by_cases hpushed : held.info.config.deliverSubject = some subject
      · rw [if_pos hpushed, if_pos hpushed]
        exact hdrains.drained hcoherent hpushed
      · rw [if_neg hpushed, if_neg hpushed]
        exact .untouched held hpushed

end Subscription

end State

end JetStream.Broker.Memory

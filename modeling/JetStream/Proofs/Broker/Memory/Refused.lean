import JetStream.Proofs.Broker.Memory.History

/-!
# Refused operations

An operation that the broker refuses leaves everything as it was: streams, messages, consumers,
queues and acknowledgements.  Only counts of requests may go on.  This file lists all reasons for a
refusal, and what is left of the state after one.

## Strategy

Most operations look a consumer up and fail if it is not there, so these failures are treated at
once: `Operation.consumer?` names the consumer that an operation needs, and
`apply_of_consumer_error` says that all of these fail in the same way.  The one operation that may
have done something before it fails is a fetch.  It takes a consumer out and puts back what a
delivery made of it; in a coherent state a delivery that hands out nothing had nothing pending, so
what is put back is what was taken out (`modifyConsumer_eq_self`).
-/

namespace JetStream

/-- A change that leaves the value under a name as it is changes nothing. -/
theorem NameMap.modify_eq_self {α : Type} {m : NameMap α} {name : String} {f : α → α}
    (hm : m.Ascending) (hf : ∀ value, m.get? name = some value → f value = value) :
    m.modify name f = m := by
  have hentries : ∀ entry ∈ m, (if entry.1 = name then (entry.1, f entry.2) else entry) = entry := by
    rintro ⟨other, value⟩ hmem
    split
    · rename_i hname
      have hget := get?_of_mem hm hmem
      rw [hf value (hname ▸ hget)]
    · rfl
  unfold NameMap.modify
  rw [List.map_congr_left hentries, List.map_id']

namespace Broker.Memory

open Consumer (Config)

/-! ## Reasons to refuse -/

/-- The consumer that has to be there for an operation. -/
def Operation.consumer? : Operation → Option (String × String)
  | .setCluster stream consumer _ | .electAfter stream consumer _
  | .request (.consumerInfo stream consumer) | .request (.deleteConsumer stream consumer)
  | .request (.stepDown stream consumer) | .request (.fetchNext stream consumer _) =>
      some (stream, consumer)
  | _ => none

/-- The stream that has to be there for an operation. -/
def Operation.stream? : Operation → Option String
  | .request (.streamInfo stream) | .request (.consumerNames stream)
  | .request (.createConsumer stream _) => some stream
  | operation => operation.consumer?.map (·.1)

namespace State

/-- No failure is arranged for the operation. -/
def Ready (s : State) (operation : Operation) : Prop :=
  ∀ stream consumer, operation = .request (.consumerInfo stream consumer) → s.failsInfo = 0

/-- The operations that the broker refuses, and what it answers.  The fresh name is for a consumer
without one. -/
inductive Refuses (s : State) (freshName : String) : Operation → Error → Prop where
  | uncaptured (subject : String) (headers : List (String × String)) (payload : Text.Bytes)
      (huncaptured : ∀ entry ∈ s.streams, entry.2.captures subject = false) :
      Refuses s freshName (.publish subject headers payload)
        (.notFound ("no stream captures " ++ subject))
  | arranged (stream consumer : String) (hfails : 0 < s.failsInfo) :
      Refuses s freshName (.request (.consumerInfo stream consumer))
        (.broker "consumer state temporarily unavailable")
  | noStream (operation : Operation) (stream : String) (hneeds : operation.stream? = some stream)
      (hready : s.Ready operation) (habsent : s.streams.get? stream = none) :
      Refuses s freshName operation (unknownStream stream)
  | noConsumer (operation : Operation) (stream consumer : String)
      (hneeds : operation.consumer? = some (stream, consumer)) (hready : s.Ready operation)
      (hstream : (s.streams.get? stream).isSome) (habsent : s.held? stream consumer = none) :
      Refuses s freshName operation (unknownConsumer stream consumer)
  | taken (stream : String) (config : Config) (held : HeldConsumer)
      (hheld : s.held? stream (config.durableName.getD freshName) = some held)
      (hother : held.info.config ≠ config) :
      Refuses s freshName (.request (.createConsumer stream config))
        (.broker ("consumer name " ++ config.durableName.getD freshName ++ " already in use"))
  | unclustered (stream consumer : String) (held : HeldConsumer)
      (hheld : s.held? stream consumer = some held) (hcluster : held.info.cluster = none) :
      Refuses s freshName (.request (.stepDown stream consumer))
        (.broker "consumer is not clustered")
  | pushes (stream consumer : String) (expiry : Duration) (held : HeldConsumer)
      (hheld : s.held? stream consumer = some held) (hpush : held.info.config.isPush = true) :
      Refuses s freshName (.request (.fetchNext stream consumer expiry))
        (.broker (notPull stream consumer))
  | exhausted (stream consumer : String) (expiry : Duration) (held : HeldConsumer)
      (hheld : s.held? stream consumer = some held) (hpull : held.info.config.isPush = false)
      (hpending : held.pending = []) :
      Refuses s freshName (.request (.fetchNext stream consumer expiry))
        (noMessage stream consumer expiry)
  | noReply (message : Message) (hreply : message.reply = none) :
      Refuses s freshName (.request (.respondEmpty message))
        (.ack message.subject "message has no reply subject")
  | disconnected (message : Message) (reply : String) (hreply : message.reply = some reply)
      (hfails : s.failsAcks = true) :
      Refuses s freshName (.request (.respondEmpty message)) (.ack reply "connection closed")

/-- The state in which an operation was counted, if it is of a kind that is, and nothing else came
of it.  A failure that was arranged is used up. -/
def counted (s : State) : Operation → State
  | .request (.consumerInfo _ _) =>
      { s with infoRequests := s.infoRequests + 1, failsInfo := s.failsInfo - 1 }
  | .request (.stepDown _ _) => { s with stepDowns := s.stepDowns + 1 }
  | _ => s

variable {s : State} {stream consumer freshName : String} {e : Error} {held : HeldConsumer}
  {now : Instant} {operation : Operation}

/-! ## Look-ups that fail -/

theorem stream_eq_error_iff :
    s.stream stream = .error e ↔ s.streams.get? stream = none ∧ unknownStream stream = e := by
  unfold State.stream
  cases s.streams.get? stream with
  | none => simp
  | some heldStream => simp

theorem streamInfo_eq_error_iff : s.streamInfo stream = .error e ↔ s.stream stream = .error e := by
  unfold State.streamInfo
  cases s.stream stream with
  | error e' => simp [bind, Except.bind]
  | ok heldStream => exact ⟨nofun, nofun⟩

theorem map_eq_error_iff {α β : Type} {result : Except Error α} {f : α → β} :
    result.map f = .error e ↔ result = .error e := by
  cases result with
  | error e' => simp [Except.map]
  | ok value => exact ⟨nofun, nofun⟩

theorem consumer_eq_error_iff :
    s.consumer stream consumer = .error e ↔
      (s.streams.get? stream = none ∧ unknownStream stream = e) ∨
        ((s.streams.get? stream).isSome ∧ s.held? stream consumer = none ∧
          unknownConsumer stream consumer = e) := by
  unfold State.consumer State.stream held?
  cases s.streams.get? stream with
  | none => simp [bind, Except.bind]
  | some heldStream =>
      cases hheld : heldStream.consumers.get? consumer <;> simp [bind, Except.bind, hheld]

/-- A change fails if the consumer is not there, or if it is refused for the consumer. -/
theorem change_fst_eq_error_iff {α : Type} {f : HeldConsumer → Except Error (α × HeldConsumer)} :
    (s.change stream consumer f).1 = .error e ↔
      s.consumer stream consumer = .error e ∨
        ∃ held, s.held? stream consumer = some held ∧ f held = .error e := by
  unfold State.change
  cases hconsumer : s.consumer stream consumer with
  | error e' =>
      have habsent : ¬∃ held, s.held? stream consumer = some held ∧ f held = .error e := by
        rintro ⟨held, hheld, -⟩
        rw [consumer_eq_ok_iff_held?.mpr hheld] at hconsumer
        exact nomatch hconsumer
      simp [habsent, Except.bind]
  | ok held =>
      rw [consumer_eq_ok_iff_held?] at hconsumer
      cases hf : f held with
      | error e' => simp [hconsumer, hf, Except.bind]
      | ok answer => simp [hconsumer, hf, Except.bind]

/-- A change that is refused for no consumer. -/
theorem consumer_error_of_change {α : Type} {f : HeldConsumer → α × HeldConsumer}
    (herror : (s.change stream consumer fun held => .ok (f held)).1 = .error e) :
    s.consumer stream consumer = .error e := by
  rcases change_fst_eq_error_iff.mp herror with hconsumer | ⟨held, -, hrefused⟩
  · exact hconsumer
  · exact nomatch hrefused

theorem change_snd_of_error {α : Type} {f : HeldConsumer → Except Error (α × HeldConsumer)}
    (herror : (s.change stream consumer f).1 = .error e) : (s.change stream consumer f).2 = s := by
  unfold State.change at herror ⊢
  split
  · rfl
  · rename_i answer held' hok
    rw [hok] at herror
    exact nomatch herror

/-! ## Operations that need a consumer -/

theorem stream?_of_consumer? (hneeds : operation.consumer? = some (stream, consumer)) :
    operation.stream? = some stream := by
  have hmap : operation.consumer?.map (·.1) = some stream := by rw [hneeds, Option.map_some]
  unfold Operation.stream?
  split
  · exact nomatch hneeds
  · exact nomatch hneeds
  · exact nomatch hneeds
  · exact hmap

theorem fetchNext_of_error (herror : s.consumer stream consumer = .error e) (expiry : Duration) :
    s.fetchNext stream consumer expiry = (.error e, s) := by
  unfold State.fetchNext
  rw [herror]
  cases hstream : s.stream stream with
  | ok heldStream => rfl
  | error e' =>
      -- the look-up of the consumer failed with that of the stream
      have hfirst : s.consumer stream consumer = .error e' := by
        unfold State.consumer
        rw [hstream]
        rfl
      cases hfirst.symm.trans herror
      rfl

/-- All operations that need a consumer fail in the same way if it is not there. -/
theorem apply_of_consumer_error (hneeds : operation.consumer? = some (stream, consumer))
    (hready : s.Ready operation) (herror : s.consumer stream consumer = .error e) :
    (s.apply now freshName operation).1 = .error e := by
  cases operation with
  | setCluster name other cluster =>
      cases hneeds
      exact change_fst_eq_error_iff.mpr (.inl herror)
  | electAfter name other polls =>
      cases hneeds
      exact change_fst_eq_error_iff.mpr (.inl herror)
  | request r =>
      cases r with
      | consumerInfo name other =>
          cases hneeds
          show (s.consumerInfo stream consumer).1 = .error e
          unfold State.consumerInfo
          dsimp only
          rw [if_neg (Nat.not_lt.mpr (Nat.le_of_eq (hready stream consumer rfl)))]
          exact change_fst_eq_error_iff.mpr (.inl herror)
      | deleteConsumer name other =>
          cases hneeds
          show (s.deleteConsumer stream consumer).1 = .error e
          unfold State.deleteConsumer
          rw [herror]
      | stepDown name other =>
          cases hneeds
          exact change_fst_eq_error_iff.mpr (.inl herror)
      | fetchNext name other expiry =>
          cases hneeds
          exact congrArg (fun outcome => outcome.1) (fetchNext_of_error herror expiry)
      | _ => exact nomatch hneeds
  | _ => exact nomatch hneeds

/-- All operations that need a stream fail in the same way if it is not there. -/
theorem apply_of_stream_error (hneeds : operation.stream? = some stream)
    (hready : s.Ready operation) (habsent : s.streams.get? stream = none) :
    (s.apply now freshName operation).1 = .error (unknownStream stream) := by
  have herror : s.stream stream = .error (unknownStream stream) :=
    stream_eq_error_iff.mpr ⟨habsent, rfl⟩
  unfold Operation.stream? at hneeds
  split at hneeds
  · cases hneeds
    exact streamInfo_eq_error_iff.mpr herror
  · cases hneeds
    exact map_eq_error_iff.mpr herror
  · cases hneeds
    show (s.createConsumer now freshName stream _).1 = _
    unfold State.createConsumer
    rw [herror]
  · obtain ⟨⟨name, consumer⟩, hconsumer, rfl⟩ := Option.map_eq_some_iff.mp hneeds
    exact apply_of_consumer_error hconsumer hready
      (consumer_eq_error_iff.mpr (.inl ⟨habsent, rfl⟩))

theorem ready_of_ne
    (hother : ∀ stream consumer, operation ≠ .request (.consumerInfo stream consumer)) :
    s.Ready operation :=
  fun stream consumer heq => absurd heq (hother stream consumer)

theorem refuses_of_stream_error (hneeds : operation.stream? = some stream)
    (hready : s.Ready operation) (herror : s.stream stream = .error e) :
    s.Refuses freshName operation e := by
  obtain ⟨habsent, rfl⟩ := stream_eq_error_iff.mp herror
  exact .noStream operation stream hneeds hready habsent

theorem refuses_of_consumer_error (hneeds : operation.consumer? = some (stream, consumer))
    (hready : s.Ready operation) (herror : s.consumer stream consumer = .error e) :
    s.Refuses freshName operation e := by
  rcases consumer_eq_error_iff.mp herror with ⟨habsent, rfl⟩ | ⟨hstream, habsent, rfl⟩
  · exact .noStream operation stream (stream?_of_consumer? hneeds) hready habsent
  · exact .noConsumer operation stream consumer hneeds hready hstream habsent

/-! ## What a refusal leaves -/

/-- A consumer that is put back as it was taken out. -/
theorem modifyConsumer_eq_self (h : s.Coherent) (hheld : s.held? stream consumer = some held) :
    (s.modifyConsumer stream consumer fun _ => held) = s := by
  unfold modifyConsumer modifyConsumers
  have hstreams : s.streams.modify stream (fun heldStream =>
      { heldStream with
        consumers := heldStream.consumers.modify consumer fun _ => held }) = s.streams := by
    refine NameMap.modify_eq_self h.ascending ?_
    intro heldStream hstream
    have hconsumers : heldStream.consumers.modify consumer (fun _ => held) =
        heldStream.consumers := by
      refine NameMap.modify_eq_self (h.streams stream heldStream hstream).ascending ?_
      intro other hother
      obtain ⟨heldStream', hstream', hconsumer⟩ := held?_eq_some_iff.mp hheld
      cases hstream.symm.trans hstream'
      exact Option.some.inj (hconsumer.symm.trans hother)
    rw [hconsumers]
  rw [hstreams]

theorem fetchNext_error (h : s.Coherent) {expiry : Duration}
    (herror : (s.fetchNext stream consumer expiry).1 = .error e) :
    s.Refuses freshName (.request (.fetchNext stream consumer expiry)) e ∧
      (s.fetchNext stream consumer expiry).2 = s := by
  cases hconsumer : s.consumer stream consumer with
  | error e' =>
      rw [fetchNext_of_error hconsumer] at herror ⊢
      cases herror
      exact ⟨refuses_of_consumer_error rfl (ready_of_ne nofun) hconsumer, rfl⟩
  | ok held =>
      have hheld := consumer_eq_ok_iff_held?.mp hconsumer
      obtain ⟨heldStream, hstream, hconsumer⟩ := held?_eq_some_iff.mp hheld
      cases hpush : held.info.config.isPush with
      | true =>
          rw [fetchNext_eq hstream hconsumer, if_pos hpush] at herror ⊢
          cases herror
          exact ⟨.pushes stream consumer expiry held hheld hpush, rfl⟩
      | false =>
          obtain ⟨hnothing, hsomething⟩ := fetchNext_answer h hheld hpush expiry
          -- a message that is pending would have been handed out
          have hpending : held.pending = [] := by
            refine Decidable.byContradiction fun hne => ?_
            obtain ⟨message, hmessage⟩ := hsomething hne
            rw [hmessage] at herror
            exact nomatch herror
          cases (hnothing hpending).symm.trans herror
          refine ⟨.exhausted stream consumer expiry held hheld hpush hpending, ?_⟩
          have hdeliver : (held.deliver heldStream).2 = held := by
            unfold HeldConsumer.deliver
            rw [hpending]
          rw [fetchNext_eq hstream hconsumer, if_neg (Bool.eq_false_iff.mp hpush), hdeliver]
          exact modifyConsumer_eq_self h hheld

theorem consumerInfo_error (herror : (s.consumerInfo stream consumer).1 = .error e) :
    s.Refuses freshName (.request (.consumerInfo stream consumer)) e ∧
      (s.consumerInfo stream consumer).2 =
        s.counted (.request (.consumerInfo stream consumer)) := by
  unfold State.consumerInfo at herror ⊢
  dsimp only at herror ⊢
  by_cases hfails : 0 < s.failsInfo
  · rw [if_pos hfails] at herror ⊢
    cases herror
    exact ⟨.arranged stream consumer hfails, rfl⟩
  · rw [if_neg hfails] at herror ⊢
    have hzero : s.failsInfo = 0 := Nat.eq_zero_of_not_pos hfails
    have hconsumer := consumer_error_of_change herror
    refine ⟨refuses_of_consumer_error rfl (fun _ _ _ => hzero) hconsumer, ?_⟩
    rw [change_snd_of_error herror]
    unfold counted
    rw [hzero]

theorem createConsumer_error {config : Config}
    (herror : (s.createConsumer now freshName stream config).1 = .error e) :
    s.Refuses freshName (.request (.createConsumer stream config)) e ∧
      (s.createConsumer now freshName stream config).2 = s := by
  unfold State.createConsumer at herror ⊢
  cases hstream : s.stream stream with
  | error e' =>
      rw [hstream] at herror
      cases herror
      exact ⟨refuses_of_stream_error rfl (ready_of_ne nofun) hstream, rfl⟩
  | ok heldStream =>
      rw [hstream] at herror
      dsimp only at herror ⊢
      split at herror
      · rename_i held hconsumer
        split at herror
        · exact nomatch herror
        · rename_i hother
          cases herror
          have hheld := held?_eq_some_iff.mpr ⟨heldStream, stream_eq_ok_iff.mp hstream, hconsumer⟩
          rw [if_neg hother]
          exact ⟨.taken stream config held hheld hother, rfl⟩
      · exact nomatch herror

theorem respondEmpty_error {message : Message} (herror : (s.respondEmpty message).1 = .error e) :
    s.Refuses freshName (.request (.respondEmpty message)) e ∧
      (s.respondEmpty message).2 = s := by
  unfold State.respondEmpty Message.replySubject at herror ⊢
  cases hreply : message.reply with
  | none =>
      rw [hreply] at herror
      cases herror
      exact ⟨.noReply message hreply, rfl⟩
  | some reply =>
      rw [hreply] at herror
      dsimp only at herror ⊢
      split at herror
      · rename_i hfails
        cases herror
        rw [if_pos hfails]
        exact ⟨.disconnected message reply hreply hfails, rfl⟩
      · exact nomatch herror

theorem publish_error {subject : String} {headers : List (String × String)} {payload : Text.Bytes}
    (herror : (s.publish now subject headers payload).1 = .error e) :
    s.Refuses freshName (.publish subject headers payload) e ∧
      (s.publish now subject headers payload).2 = s := by
  unfold State.publish at herror ⊢
  split at herror
  · rename_i hnone
    cases herror
    have huncaptured : ∀ entry ∈ s.streams, entry.2.captures subject = false :=
      fun entry hentry => Bool.eq_false_iff.mpr (List.find?_eq_none.mp hnone entry hentry)
    exact ⟨.uncaptured subject headers payload huncaptured, rfl⟩
  · exact nomatch herror

theorem deleteConsumer_error (herror : (s.deleteConsumer stream consumer).1 = .error e) :
    s.Refuses freshName (.request (.deleteConsumer stream consumer)) e ∧
      (s.deleteConsumer stream consumer).2 = s := by
  unfold State.deleteConsumer at herror ⊢
  split at herror
  · rename_i hconsumer
    cases herror
    exact ⟨refuses_of_consumer_error rfl (ready_of_ne nofun) hconsumer, rfl⟩
  · exact nomatch herror

theorem stepDown_error (herror : (s.stepDown stream consumer).1 = .error e) :
    s.Refuses freshName (.request (.stepDown stream consumer)) e ∧
      (s.stepDown stream consumer).2 = s.counted (.request (.stepDown stream consumer)) := by
  unfold State.stepDown at herror ⊢
  refine ⟨?_, change_snd_of_error herror⟩
  rcases change_fst_eq_error_iff.mp herror with hconsumer | ⟨held, hheld, hrefused⟩
  · exact refuses_of_consumer_error rfl (ready_of_ne nofun) hconsumer
  · split at hrefused
    · rename_i hcluster
      cases hrefused
      exact .unclustered stream consumer held hheld (Option.isNone_iff_eq_none.mp hcluster)
    · exact nomatch hrefused

/-- An operation that fails was refused, and was counted at most. -/
theorem refuses_of_error (h : s.Coherent)
    (herror : (s.apply now freshName operation).1 = .error e) :
    s.Refuses freshName operation e ∧
      (s.apply now freshName operation).2 = s.counted operation := by
  cases operation with
  | addStream name subjects => exact nomatch herror
  | publish subject headers payload => exact publish_error herror
  | pushRaw subject message => exact nomatch herror
  | setCluster name other cluster =>
      have hconsumer := consumer_error_of_change herror
      exact ⟨refuses_of_consumer_error rfl (ready_of_ne nofun) hconsumer,
        change_snd_of_error herror⟩
  | electAfter name other polls =>
      have hconsumer := consumer_error_of_change herror
      exact ⟨refuses_of_consumer_error rfl (ready_of_ne nofun) hconsumer,
        change_snd_of_error herror⟩
  | failInfo count => exact nomatch herror
  | failAcks fail => exact nomatch herror
  | request r =>
      cases r with
      | streamInfo name =>
          have hstream := streamInfo_eq_error_iff.mp herror
          exact ⟨refuses_of_stream_error rfl (ready_of_ne nofun) hstream, rfl⟩
      | streamNames => exact nomatch herror
      | consumerNames name =>
          have hstream := map_eq_error_iff.mp herror
          exact ⟨refuses_of_stream_error rfl (ready_of_ne nofun) hstream, rfl⟩
      | consumerInfo name other => exact consumerInfo_error herror
      | createConsumer name config => exact createConsumer_error herror
      | deleteConsumer name other => exact deleteConsumer_error herror
      | stepDown name other => exact stepDown_error herror
      | fetchNext name other expiry => exact fetchNext_error h herror
      | subscribe subject => exact nomatch herror
      | respondEmpty message => exact respondEmpty_error herror
      | flush => exact nomatch herror

/-- An operation that is refused fails. -/
theorem error_of_refuses (h : s.Coherent) (hrefuses : s.Refuses freshName operation e) :
    (s.apply now freshName operation).1 = .error e := by
  cases hrefuses with
  | uncaptured subject headers payload huncaptured =>
      show (s.publish now subject headers payload).1 = _
      have hnone : s.streams.find? (fun entry => entry.2.captures subject) = none :=
        List.find?_eq_none.mpr fun entry hentry => Bool.eq_false_iff.mp (huncaptured entry hentry)
      unfold State.publish
      rw [hnone]
  | arranged stream consumer hfails =>
      show (s.consumerInfo stream consumer).1 = _
      unfold State.consumerInfo
      dsimp only
      rw [if_pos hfails]
  | noStream _ stream hneeds hready habsent => exact apply_of_stream_error hneeds hready habsent
  | noConsumer _ stream consumer hneeds hready hstream habsent =>
      exact apply_of_consumer_error hneeds hready
        (consumer_eq_error_iff.mpr (.inr ⟨hstream, habsent, rfl⟩))
  | taken stream config held hheld hother =>
      show (s.createConsumer now freshName stream config).1 = _
      obtain ⟨heldStream, hstream, hconsumer⟩ := held?_eq_some_iff.mp hheld
      unfold State.createConsumer
      rw [stream_eq_ok_iff.mpr hstream]
      dsimp only
      rw [hconsumer]
      dsimp only
      rw [if_neg hother]
  | unclustered stream consumer held hheld hcluster =>
      refine change_fst_eq_error_iff.mpr (.inr ⟨held, hheld, ?_⟩)
      rw [if_pos (Option.isNone_iff_eq_none.mpr hcluster)]
  | pushes stream consumer expiry held hheld hpush =>
      show (s.fetchNext stream consumer expiry).1 = _
      obtain ⟨heldStream, hstream, hconsumer⟩ := held?_eq_some_iff.mp hheld
      rw [fetchNext_eq hstream hconsumer, if_pos hpush]
  | exhausted stream consumer expiry held hheld hpull hpending =>
      exact (fetchNext_answer h hheld hpull expiry).1 hpending
  | noReply message hreply =>
      show (s.respondEmpty message).1 = _
      unfold State.respondEmpty Message.replySubject
      rw [hreply]
  | disconnected message reply hreply hfails =>
      show (s.respondEmpty message).1 = _
      unfold State.respondEmpty Message.replySubject
      rw [hreply]
      dsimp only
      rw [if_pos hfails]

/-- In every state that an empty broker comes to, the operations that fail are the ones that are
refused, and a failed operation leaves all as it was, but for being counted.  To create a consumer
once more with the configuration that it has changes nothing either, and tells its state. -/
theorem state_of_refused (before : List Step) (now : Instant) (freshName : String) :
    let s := ({} : State).run before
    (∀ operation e, (s.apply now freshName operation).1 = .error e ↔
      s.Refuses freshName operation e) ∧
    (∀ operation e, (s.apply now freshName operation).1 = .error e →
      (s.apply now freshName operation).2 = s.counted operation) ∧
    (∀ stream config held, s.held? stream (config.durableName.getD freshName) = some held →
      held.info.config = config →
        s.apply now freshName (.request (.createConsumer stream config)) =
          (.ok held.info, s)) := by
  intro s
  have h : s.Coherent := coherent_run before
  refine ⟨?_, ?_, ?_⟩
  · intro operation e
    exact ⟨fun herror => (refuses_of_error h herror).1, error_of_refuses h⟩
  · intro operation e herror
    exact (refuses_of_error h herror).2
  · intro stream config held hheld hsame
    obtain ⟨heldStream, hstream, hconsumer⟩ := held?_eq_some_iff.mp hheld
    show s.createConsumer now freshName stream config = _
    unfold State.createConsumer
    rw [stream_eq_ok_iff.mpr hstream]
    dsimp only
    rw [hconsumer]
    dsimp only
    rw [if_pos hsame]

/-- A fetch for which there is nothing, a state that cannot be told, and a consumer that is there
already. -/
theorem state_of_refused_exhausted :
    let s := ({} : State).run
      [⟨.epoch, "", .addStream "S" ["a"]⟩,
       ⟨.epoch, "", .request (.createConsumer "S" { durableName := some "D" })⟩,
       ⟨.epoch, "", .failInfo 2⟩]
    (s.apply .epoch "" (.request (.fetchNext "S" "D" ⟨0⟩))).2 = s ∧
      (s.apply .epoch "" (.request (.consumerInfo "S" "D"))).2 =
        { s with infoRequests := 1, failsInfo := 1 } ∧
      (s.apply .epoch "" (.request (.createConsumer "S" { durableName := some "D" }))).2 = s := by
  intro s
  obtain ⟨held, hheld, hconfig, hpending⟩ : ∃ held, s.held? "S" "D" = some held ∧
      held.info.config = { durableName := some "D" } ∧ held.pending = [] := ⟨_, rfl, rfl, rfl⟩
  obtain ⟨hrefused, hstate, hagain⟩ := state_of_refused
    [⟨.epoch, "", .addStream "S" ["a"]⟩,
     ⟨.epoch, "", .request (.createConsumer "S" { durableName := some "D" })⟩,
     ⟨.epoch, "", .failInfo 2⟩] .epoch ""
  have hpull : held.info.config.isPush = false := hconfig ▸ rfl
  have hfetch := (hrefused _ _).mpr (.exhausted "S" "D" ⟨0⟩ held hheld hpull hpending)
  have hinfo := (hrefused _ _).mpr (.arranged "S" "D" (show 0 < 2 by decide))
  have hcreate := hagain "S" { durableName := some "D" } held hheld hconfig
  exact ⟨hstate _ _ hfetch, hstate _ _ hinfo, congrArg (fun outcome => outcome.2) hcreate⟩

end State

end Broker.Memory

end JetStream

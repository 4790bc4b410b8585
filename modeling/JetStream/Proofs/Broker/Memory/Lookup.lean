import JetStream.Proofs.Broker.Memory.Acknowledged
import JetStream.Proofs.Broker.Memory.Refused

/-!
# Look-ups after an operation

One equation for each operation: what is found under the name of a consumer once it has happened, in
terms of what was found there before.  Streams apart from their consumers are looked up in the same
way; only one operation needs an equation for that, since the others leave them as they are or make
new ones.

## Strategy

The broker keeps consumers within streams, and takes them out and puts them back to hand out
messages.  A look-up does not see any of this, so whatever is said about one consumer and all that
can happen to the broker is a case analysis of operations, with one of these equations in each case.
-/

namespace JetStream.Broker.Memory

open Consumer (Config)

namespace State

variable {s : State} {stream consumer : String}

/-! ## Streams -/

theorem held?_addStream (name : String) (subjects : List String) :
    (s.addStream name subjects).held? stream consumer =
      if name = stream then none else s.held? stream consumer := by
  unfold held? addStream
  rw [NameMap.get?_insert]
  split
  · rfl
  · rfl

/-- The message is put at the end of the stream that is found for it. -/
theorem contents?_publish (h : s.Coherent) (now : Instant) (subject : String)
    (headers : List (String × String)) (payload : Text.Bytes) :
    (s.publish now subject headers payload).2.contents? stream =
      (s.contents? stream).map fun contents =>
        if (s.streams.find? fun entry => entry.2.captures subject).map (·.1) = some stream then
          (contents.1, contents.2 ++ [⟨contents.2.length + 1, subject, headers, payload, now⟩])
        else contents := by
  unfold State.publish
  cases hfind : s.streams.find? fun entry => entry.2.captures subject with
  | none =>
      dsimp only [Option.map_none]
      simp
  | some entry =>
      obtain ⟨name, found⟩ := entry
      have hfound := NameMap.get?_of_mem h.ascending (List.mem_of_find?_eq_some hfind)
      have hsequence := (h.streams name found hfound).numbered.nextSequence_eq
      unfold contents?
      simp only [NameMap.get?_modify, Option.map_some, Option.some.injEq]
      by_cases hname : name = stream
      · subst hname
        rw [hfound, hsequence]
        simp [HeldStream.store]
      · simp [hname, Function.comp_def]

/-- The consumers of that stream get it if they want it. -/
theorem held?_publish (h : s.Coherent) (now : Instant) (subject : String)
    (headers : List (String × String)) (payload : Text.Bytes) :
    (s.publish now subject headers payload).2.held? stream consumer =
      (s.held? stream consumer).map fun held =>
        if (s.streams.find? fun entry => entry.2.captures subject).map (·.1) = some stream ∧
            Subject.isWanted held.info.config.filterSubject subject = true then
          held.enqueue ((s.messages stream).length + 1)
        else held := by
  unfold State.publish
  cases hfind : s.streams.find? fun entry => entry.2.captures subject with
  | none =>
      dsimp only [Option.map_none]
      simp
  | some entry =>
      obtain ⟨name, found⟩ := entry
      have hfound := NameMap.get?_of_mem h.ascending (List.mem_of_find?_eq_some hfind)
      have hsequence := (h.streams name found hfound).numbered.nextSequence_eq
      unfold held? messages
      simp only [NameMap.get?_modify, Option.map_some, Option.some.injEq]
      by_cases hname : name = stream
      · subst hname
        rw [hfound, hsequence]
        simp [HeldStream.get?_store]
      · simp [hname]

/-! ## Consumers -/

/-- A change of a consumer that is there, and that is not refused. -/
theorem change_of_held {α : Type} {f : HeldConsumer → Except Error (α × HeldConsumer)} {answer : α}
    {held held' : HeldConsumer} (hheld : s.held? stream consumer = some held)
    (hf : f held = .ok (answer, held')) :
    s.change stream consumer f =
      (.ok answer, s.modifyConsumer stream consumer fun _ => held') := by
  unfold State.change
  rw [consumer_eq_ok_iff_held?.mpr hheld]
  dsimp only [Except.bind]
  rw [hf]

/-- A change of a consumer; if it is refused, the consumer stays as it is. -/
theorem held?_change {α : Type} (name other : String)
    (f : HeldConsumer → Except Error (α × HeldConsumer)) :
    (s.change name other f).2.held? stream consumer =
      (s.held? stream consumer).map fun held =>
        if name = stream ∧ other = consumer then ((f held).toOption.map (·.2)).getD held
        else held := by
  cases hheld : s.held? stream consumer with
  | none =>
      unfold State.change
      split
      next => exact hheld
      next =>
        rw [held?_modifyConsumer, hheld]
        rfl
  | some held =>
      rw [Option.map_some]
      by_cases hsame : name = stream ∧ other = consumer
      · obtain ⟨rfl, rfl⟩ := hsame
        rw [if_pos ⟨rfl, rfl⟩]
        cases hf : f held with
        | error e =>
            have hrefused : (s.change name other f).1 = .error e :=
              change_fst_eq_error_iff.mpr (.inr ⟨held, hheld, hf⟩)
            rw [change_snd_of_error hrefused]
            exact hheld
        | ok outcome =>
            rw [change_of_held hheld hf, held?_modifyConsumer, hheld, Option.map_some,
              if_pos ⟨rfl, rfl⟩]
            rfl
      · rw [if_neg hsame]
        unfold State.change
        split
        next => exact hheld
        next => rw [held?_modifyConsumer, hheld, Option.map_some, if_neg hsame]

theorem held?_consumerInfo (name other : String) :
    (s.consumerInfo name other).2.held? stream consumer =
      (s.held? stream consumer).map fun held =>
        if s.failsInfo = 0 ∧ name = stream ∧ other = consumer then held.poll else held := by
  unfold State.consumerInfo
  dsimp only
  split
  next hfails =>
    have hne : s.failsInfo ≠ 0 := Nat.ne_of_gt hfails
    simp only [hne, false_and, if_false, Option.map_id']
    rfl
  next hworks =>
    have hzero : s.failsInfo = 0 := Nat.eq_zero_of_not_pos hworks
    rw [held?_change]
    simp only [hzero, true_and]
    rfl

theorem held?_of_stream (hstream : s.streams.get? stream = none) (consumer : String) :
    s.held? stream consumer = none := by
  rw [held?, hstream, Option.bind_none]

theorem held?_of_error {e : Error} (herror : s.consumer stream consumer = .error e) :
    s.held? stream consumer = none := by
  rcases consumer_eq_error_iff.mp herror with ⟨habsent, -⟩ | ⟨-, habsent, -⟩
  · exact held?_of_stream habsent consumer
  · exact habsent

/-- A consumer is made where there was none. -/
theorem held?_createConsumer_or (now : Instant) (freshName name : String) (config : Config) :
    (s.createConsumer now freshName name config).2.held? stream consumer =
      if name = stream ∧ config.durableName.getD freshName = consumer then
        (s.held? stream consumer).or ((s.streams.get? stream).map fun heldStream =>
          newConsumer stream consumer now heldStream.messages config)
      else s.held? stream consumer := by
  by_cases hsame : name = stream ∧ config.durableName.getD freshName = consumer
  · obtain ⟨rfl, rfl⟩ := hsame
    rw [if_pos ⟨rfl, rfl⟩]
    cases hstream : s.streams.get? name with
    | none =>
        rw [held?_of_stream hstream]
        unfold State.createConsumer
        rw [stream_eq_error_iff.mpr ⟨hstream, rfl⟩]
        exact held?_of_stream hstream _
    | some heldStream =>
        cases hheld : heldStream.consumers.get? (config.durableName.getD freshName) with
        | none =>
            rw [held?_createConsumer hstream hheld, held?, hstream, Option.bind_some, hheld]
            rfl
        | some existing =>
            have hexisting := held?_eq_some_iff.mpr ⟨heldStream, hstream, hheld⟩
            rw [hexisting, Option.some_or]
            unfold State.createConsumer
            rw [stream_eq_ok_iff.mpr hstream]
            dsimp only
            rw [hheld]
            dsimp only
            split
            · exact hexisting
            · exact hexisting
  · rw [if_neg hsame]
    unfold State.createConsumer
    split
    · rfl
    · dsimp only
      split
      · split
        · rfl
        · rfl
      · rw [held?_modifyConsumers]
        refine Option.bind_congr fun heldStream _ => ?_
        split
        next hname =>
          rw [NameMap.get?_insert, if_neg fun hconsumer => hsame ⟨hname, hconsumer⟩]
        next => rfl

theorem held?_deleteConsumer (name other : String) :
    (s.deleteConsumer name other).2.held? stream consumer =
      if name = stream ∧ other = consumer then none else s.held? stream consumer := by
  unfold State.deleteConsumer
  cases hconsumer : s.consumer name other with
  | error e =>
      show s.held? stream consumer = _
      split
      next hsame =>
        obtain ⟨rfl, rfl⟩ := hsame
        exact held?_of_error hconsumer
      next => rfl
  | ok held =>
      show (s.modifyConsumers name (·.erase other)).held? stream consumer = _
      rw [held?_modifyConsumers]
      by_cases hsame : name = stream ∧ other = consumer
      · simp [hsame, NameMap.get?_erase]
      · rw [if_neg hsame]
        refine Option.bind_congr fun heldStream _ => ?_
        split
        next hname => rw [NameMap.get?_erase, if_neg fun hconsumer => hsame ⟨hname, hconsumer⟩]
        next => rfl

theorem held?_stepDown (name other : String) :
    (s.stepDown name other).2.held? stream consumer =
      (s.held? stream consumer).map fun held =>
        if (name = stream ∧ other = consumer) ∧ held.info.cluster.isSome then held.stepDown
        else held := by
  unfold State.stepDown
  dsimp only
  rw [held?_change]
  refine congrArg (fun f => Option.map f _) (funext fun held => ?_)
  cases hcluster : held.info.cluster with
  | none => simp [Except.toOption]
  | some cluster => simp [Except.toOption]

theorem held?_fetchNext (name other : String) (expiry : Duration) :
    (s.fetchNext name other expiry).2.held? stream consumer =
      (s.streams.get? stream).bind fun heldStream =>
        (heldStream.consumers.get? consumer).map fun held =>
          if (name = stream ∧ other = consumer) ∧ held.info.config.isPush = false then
            (held.deliver heldStream).2
          else held := by
  by_cases hsame : name = stream ∧ other = consumer
  · obtain ⟨rfl, rfl⟩ := hsame
    cases hconsumer : s.consumer name other with
    | error e =>
        rw [fetchNext_of_error hconsumer]
        have habsent := held?_of_error hconsumer
        show s.held? name other = _
        rw [habsent, eq_comm, Option.bind_eq_none_iff]
        intro heldStream hstream
        rw [held?, hstream, Option.bind_some] at habsent
        rw [habsent, Option.map_none]
    | ok held =>
        obtain ⟨heldStream, hstream, hheld⟩ := consumer_eq_ok_iff.mp hconsumer
        rw [consumer_eq_ok_iff_held?] at hconsumer
        rw [fetchNext_eq hstream hheld, hstream, Option.bind_some, hheld, Option.map_some]
        cases hpush : held.info.config.isPush with
        | true =>
            rw [if_pos rfl, if_neg (fun h => nomatch h.2)]
            exact hconsumer
        | false =>
            rw [if_neg Bool.false_ne_true, if_pos ⟨⟨rfl, rfl⟩, rfl⟩]
            show (s.modifyConsumer name other fun _ => _).held? name other = _
            rw [held?_modifyConsumer, hconsumer, Option.map_some, if_pos ⟨rfl, rfl⟩]
  · simp only [hsame, false_and, if_false, Option.map_id']
    unfold State.fetchNext
    split
    · split
      · rfl
      · dsimp only
        split
        · rw [held?_modifyConsumer]
          simp only [hsame, if_false, Option.map_id']
          rfl
        · rw [held?_modifyConsumer]
          simp only [hsame, if_false, Option.map_id']
          rfl
    · rfl
    · rfl

/-- Nothing happens where an acknowledgement fails. -/
theorem held?_respondEmpty_ite (message : Message) :
    (s.respondEmpty message).2.held? stream consumer =
      (s.held? stream consumer).map fun held =>
        if s.failsAcks then held
        else (deliveredTo? stream consumer message).elim held held.acknowledge := by
  cases hreply : message.reply with
  | none =>
      have hdelivered : deliveredTo? stream consumer message = none := by
        unfold deliveredTo? Message.metadata?
        rw [hreply]
        rfl
      unfold State.respondEmpty Message.replySubject
      simp [hreply, hdelivered]
  | some reply =>
      cases hfails : s.failsAcks with
      | true =>
          unfold State.respondEmpty Message.replySubject
          simp [hreply, hfails]
      | false =>
          rw [held?_respondEmpty (Option.isSome_of_eq_some hreply) hfails]
          rfl

/-! ## Answers about a consumer that is there -/

variable {held : HeldConsumer}

theorem consumerInfo_of_fails (stream consumer : String) (hfails : 0 < s.failsInfo) :
    ∃ e s', s.consumerInfo stream consumer = (.error e, s') ∧ s'.streams = s.streams ∧
      s'.failsInfo = s.failsInfo - 1 := by
  unfold State.consumerInfo
  dsimp only
  rw [if_pos hfails]
  exact ⟨_, _, rfl, rfl, rfl⟩

theorem consumerInfo_of_held (hheld : s.held? stream consumer = some held)
    (hworks : s.failsInfo = 0) :
    ∃ s', s.consumerInfo stream consumer = (.ok held.poll.info, s') ∧
      s'.held? stream consumer = some held.poll ∧ s'.failsInfo = 0 := by
  let s' := { s with infoRequests := s.infoRequests + 1 }
  have hread : s.consumerInfo stream consumer =
      (.ok held.poll.info, s'.modifyConsumer stream consumer fun _ => held.poll) :=
    (if_neg (Nat.not_lt.mpr (Nat.le_of_eq hworks))).trans (change_of_held hheld rfl)
  have hafter : (s.consumerInfo stream consumer).2.held? stream consumer = some held.poll := by
    rw [held?_consumerInfo, hheld, Option.map_some, if_pos ⟨hworks, rfl, rfl⟩]
  rw [hread] at hafter
  exact ⟨_, hread, hafter, hworks⟩

theorem stepDown_of_held (hheld : s.held? stream consumer = some held)
    (hcluster : held.info.cluster.isSome) :
    ∃ s', s.stepDown stream consumer = (.ok (), s') ∧
      s'.held? stream consumer = some held.stepDown ∧ s'.failsInfo = s.failsInfo := by
  let s' := { s with stepDowns := s.stepDowns + 1 }
  have hclustered : ¬held.info.cluster.isNone = true := by
    rw [Option.isNone_eq_false_iff.mpr hcluster]
    exact Bool.false_ne_true
  have hdown : s.stepDown stream consumer =
      (.ok (), s'.modifyConsumer stream consumer fun _ => held.stepDown) :=
    change_of_held hheld (if_neg hclustered)
  have hafter : (s.stepDown stream consumer).2.held? stream consumer = some held.stepDown := by
    rw [held?_stepDown, hheld, Option.map_some, if_pos ⟨⟨rfl, rfl⟩, hcluster⟩]
  rw [hdown] at hafter
  exact ⟨_, hdown, hafter, rfl⟩

end State

end JetStream.Broker.Memory

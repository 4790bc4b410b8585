import JetStream.Proofs.Broker.Memory.Reachable
import JetStream.Proofs.Message.Address

/-!
# What a consumer is handed over time

From its creation on, a consumer is handed what it started with and what came to its stream since,
in order, without a gap and without a repetition; what it was not handed yet is what it is yet to be
handed.  Nothing else that happens to the broker makes a difference to that.

## Strategy

`HeldConsumer.Course` relates what is kept for a consumer at one time with what is kept for it at a
later one: the sequences handed out in between, followed by those pending at the end, are those
pending at the start, followed by the arrivals.  Courses compose (`Course.trans`), so it is enough
to find the course of every operation, in the lemmas `keeps_…`; that a delivery hands out the first
pending sequence, and never loses it, is where the consumer has to be coherent.
-/

namespace JetStream.Broker.Memory

open Consumer (Config)

/-! ## What a step hands out, and what it brings -/

/-- The messages that a subscription to a subject hands out for a consumer. -/
def State.pushedTo (s : State) (stream consumer subject : String) : List Message :=
  match s.streams.get? stream with
  | none => []
  | some heldStream =>
      match heldStream.consumers.get? consumer with
      | none => []
      | some held =>
          if held.info.config.deliverSubject = some subject then (held.deliverAll heldStream).1
          else []

/-- The messages that a step hands out for a consumer. -/
def State.handedTo (stream consumer : String) (s : State) (step : Step) : List Message :=
  match step.operation with
  | .request (.fetchNext other name expiry) =>
      if other = stream ∧ name = consumer then (s.fetchNext other name expiry).1.toOption.toList
      else []
  | .request (.subscribe subject) => s.pushedTo stream consumer subject
  | _ => []

/-- The sequences of the messages that a step brings to a stream and that a filter lets through. -/
def State.arrivals (stream : String) (filter : Option String) (s : State) (step : Step) :
    List Nat :=
  match step.operation with
  | .publish subject headers payload =>
      if (s.streams.find? fun entry => entry.2.captures subject).map (·.1) = some stream ∧
          Subject.isWanted filter subject then
        (s.publish step.now subject headers payload).1.toOption.toList
      else []
  | _ => []

/-- What each of the steps of a run gives, one after another. -/
def State.history {α : Type} (f : State → Step → List α) : State → List Step → List α
  | _, [] => []
  | s, step :: later => f s step ++ history f (s.after step) later

theorem State.history_concat {α : Type} (f : State → Step → List α) (s : State) (before : List Step)
    (step : Step) :
    s.history f (before ++ [step]) = s.history f before ++ f (s.run before) step := by
  induction before generalizing s with
  | nil => exact List.append_nil _
  | cons first before ih =>
      show f s first ++ (s.after first).history f (before ++ [step]) = _
      rw [ih, ← List.append_assoc]
      rfl

/-- The step ends a consumer: it is deleted, or its stream makes place for a new one. -/
def Step.ends (step : Step) (stream consumer : String) : Prop :=
  match step.operation with
  | .addStream name _ => name = stream
  | .request (.deleteConsumer name other) => name = stream ∧ other = consumer
  | _ => False

/-- A subscription hands out what is outside of any stream, and then what is handed out for each of
the consumers, stream by stream. -/
theorem State.subscribe_fst {s : State} (h : s.Coherent) (subject : String) :
    (s.subscribe subject).1 =
      (s.raw.get? subject).getD [] ++
        s.streams.flatMap fun stream =>
          stream.2.consumers.flatMap fun consumer => s.pushedTo stream.1 consumer.1 subject := by
  unfold State.subscribe
  dsimp only
  rw [List.flatMap_map]
  refine congrArg _ (congrArg List.flatten (List.map_congr_left ?_))
  intro stream hstream
  have hget := NameMap.get?_of_mem h.ascending hstream
  have hcoherent := h.streams stream.1 stream.2 hget
  unfold HeldStream.drain
  dsimp only
  rw [List.flatMap_map]
  refine congrArg List.flatten (List.map_congr_left ?_)
  intro consumer hconsumer
  unfold pushedTo
  rw [hget]
  dsimp only
  rw [NameMap.get?_of_mem hcoherent.ascending hconsumer]
  dsimp only
  split
  · rfl
  · rfl

/-! ## The course of a consumer -/

namespace HeldConsumer

/-- From one time to a later one, with the sequences that arrive and the messages that are handed
out in between. -/
structure Course (held : HeldConsumer) (arrivals : List Nat) (handed : List Message)
    (held' : HeldConsumer) : Prop where
  identity_eq : held'.identity = held.identity
  balance : ∃ sequences : List Nat,
    sequences ++ held'.pending = held.pending ++ arrivals ∧
    handed.map Message.sequences? =
      (sequences.zipIdx (held.info.delivered.consumer + 1)).map some ∧
    held'.info.delivered.consumer = held.info.delivered.consumer + sequences.length

namespace Course

variable {held held₁ held' : HeldConsumer}

/-- Nothing arrives and nothing is handed out. -/
theorem quiet (hidentity : held'.identity = held.identity)
    (hpending : held'.pending = held.pending)
    (hdelivered : held'.info.delivered = held.info.delivered) : Course held [] [] held' where
  identity_eq := hidentity
  balance := by
    refine ⟨[], ?_, rfl, ?_⟩
    · rw [hpending, List.nil_append, List.append_nil]
    · rw [hdelivered]
      rfl

theorem refl (held : HeldConsumer) : Course held [] [] held := quiet rfl rfl rfl

theorem poll (held : HeldConsumer) : Course held [] [] held.poll := by
  unfold HeldConsumer.poll
  split
  · exact refl held
  · split
    · exact quiet rfl rfl rfl
    · exact quiet rfl rfl rfl

theorem stepDown (held : HeldConsumer) : Course held [] [] held.stepDown := by
  unfold HeldConsumer.stepDown
  split
  · exact quiet rfl rfl rfl
  · exact refl held

theorem enqueue (held : HeldConsumer) (sequence : Nat) :
    Course held [sequence] [] (held.enqueue sequence) where
  identity_eq := rfl
  balance := ⟨[], rfl, rfl, rfl⟩

theorem trans {arrivals arrivals' : List Nat} {handed handed' : List Message}
    (h : Course held arrivals handed held₁) (h' : Course held₁ arrivals' handed' held') :
    Course held (arrivals ++ arrivals') (handed ++ handed') held' where
  identity_eq := h'.identity_eq.trans h.identity_eq
  balance := by
    obtain ⟨sequences, hpending, hhanded, hcount⟩ := h.balance
    obtain ⟨sequences', hpending', hhanded', hcount'⟩ := h'.balance
    -- what is pending in between is handed out first, and then what arrived after it
    refine ⟨sequences ++ sequences', ?_, ?_, ?_⟩
    · calc sequences ++ sequences' ++ held'.pending
          = sequences ++ (held₁.pending ++ arrivals') := by rw [List.append_assoc, hpending']
        _ = held.pending ++ (arrivals ++ arrivals') := by
            rw [← List.append_assoc, hpending, List.append_assoc]
    · rw [List.map_append, hhanded, hhanded', hcount, List.zipIdx_append, List.map_append,
        Nat.add_right_comm]
    · rw [hcount', hcount, List.length_append, Nat.add_assoc]

/-- A delivery hands out the first sequence that is pending, if there is one. -/
theorem deliver {stream : HeldStream} (h : held.Coherent stream.messages) :
    Course held [] (held.deliver stream).1.toList (held.deliver stream).2 where
  identity_eq := held.identity_deliver stream
  balance := by
    cases hpending : held.pending with
    | nil =>
        unfold HeldConsumer.deliver
        rw [hpending]
        exact ⟨[], by rw [hpending], rfl, rfl⟩
    | cons sequence left =>
        obtain ⟨stored, -, hsequence, hdeliver⟩ := h.deliver_eq rfl hpending
        rw [hdeliver]
        refine ⟨[sequence], ?_, ?_, ?_⟩
        · rw [pending_handOut, List.append_nil]
          rfl
        · show [Message.sequences? _] = [some (sequence, held.info.delivered.consumer + 1)]
          rw [Message.sequences?_eq _ _ rfl, ← hsequence]
          show [some (stored.sequence, (held.handOut _ left).info.delivered.consumer)] = _
          rw [delivered_handOut]
        · rw [delivered_handOut]
          rfl

theorem deliverUpTo {stream : HeldStream} (h : held.Coherent stream.messages)
    (hnumbered : Numbered stream.messages) (n : Nat) :
    Course held [] (held.deliverUpTo stream n).1 (held.deliverUpTo stream n).2 := by
  induction n generalizing held with
  | zero => exact refl held
  | succ n ih =>
      have hcoherent := h.deliver hnumbered rfl
      have hfirst := deliver h
      unfold HeldConsumer.deliverUpTo
      split
      · rename_i held₁ hnone
        rw [hnone] at hfirst
        exact hfirst
      · rename_i message held₁ hsome
        rw [hsome] at hfirst hcoherent
        exact hfirst.trans (ih hcoherent)

end Course

end HeldConsumer

/-! ## Every operation -/

namespace State

/-- What is kept for a consumer, if there is one. -/
def held? (s : State) (stream consumer : String) : Option HeldConsumer :=
  (s.streams.get? stream).bind (·.consumers.get? consumer)

/-- The consumer is there, and came to this state from what it was. -/
def Keeps (s : State) (stream consumer : String) (held : HeldConsumer) (arrivals : List Nat)
    (handed : List Message) : Prop :=
  ∃ held', s.held? stream consumer = some held' ∧ held.Course arrivals handed held'

variable {s : State} {stream consumer : String} {held : HeldConsumer}

theorem held?_eq_some_iff :
    s.held? stream consumer = some held ↔ ∃ heldStream, s.streams.get? stream = some heldStream ∧
      heldStream.consumers.get? consumer = some held :=
  Option.bind_eq_some_iff

theorem consumer_eq_ok_iff_held? : s.consumer stream consumer = .ok held ↔
    s.held? stream consumer = some held :=
  consumer_eq_ok_iff.trans held?_eq_some_iff.symm

theorem keeps_of_streams_eq {s' : State} (hheld : s.held? stream consumer = some held)
    (hstreams : s'.streams = s.streams) : s'.Keeps stream consumer held [] [] := by
  refine ⟨held, ?_, .refl held⟩
  unfold held?
  rw [hstreams]
  exact hheld

theorem held?_modifyConsumers (s : State) (name : String)
    (f : NameMap HeldConsumer → NameMap HeldConsumer) (stream consumer : String) :
    (s.modifyConsumers name f).held? stream consumer =
      (s.streams.get? stream).bind fun heldStream =>
        if name = stream then (f heldStream.consumers).get? consumer
        else heldStream.consumers.get? consumer := by
  unfold held? modifyConsumers
  rw [NameMap.get?_modify]
  cases s.streams.get? stream with
  | none => rfl
  | some heldStream =>
      by_cases hname : name = stream
      · simp [hname]
      · simp [hname]

theorem held?_modifyConsumer (s : State) (name other : String) (f : HeldConsumer → HeldConsumer)
    (stream consumer : String) :
    (s.modifyConsumer name other f).held? stream consumer =
      (s.held? stream consumer).map fun held =>
        if name = stream ∧ other = consumer then f held else held := by
  unfold modifyConsumer
  rw [held?_modifyConsumers]
  unfold held?
  cases s.streams.get? stream with
  | none => rfl
  | some heldStream =>
      by_cases hname : name = stream
      · simp [hname, NameMap.get?_modify]
      · simp [hname]

/-- Consumers of a stream are changed, but not this one. -/
theorem keeps_modifyConsumers {name : String} {f : NameMap HeldConsumer → NameMap HeldConsumer}
    (hheld : s.held? stream consumer = some held)
    (hf : ∀ m : NameMap HeldConsumer, m.get? consumer = some held → name = stream →
      (f m).get? consumer = some held) :
    (s.modifyConsumers name f).Keeps stream consumer held [] [] := by
  obtain ⟨heldStream, hstream, hconsumer⟩ := held?_eq_some_iff.mp hheld
  refine ⟨held, ?_, .refl held⟩
  rw [held?_modifyConsumers, hstream, Option.bind_some]
  split
  · rename_i hname
    exact hf heldStream.consumers hconsumer hname
  · exact hconsumer

/-- A consumer is changed, this one or another. -/
theorem keeps_modifyConsumer {name other : String} {f : HeldConsumer → HeldConsumer}
    (hheld : s.held? stream consumer = some held)
    (hf : name = stream ∧ other = consumer → held.Course [] [] (f held)) :
    (s.modifyConsumer name other f).Keeps stream consumer held [] [] := by
  by_cases hsame : name = stream ∧ other = consumer
  · refine ⟨f held, ?_, hf hsame⟩
    rw [held?_modifyConsumer, hheld, Option.map_some, if_pos hsame]
  · refine ⟨held, ?_, .refl held⟩
    rw [held?_modifyConsumer, hheld, Option.map_some, if_neg hsame]

theorem keeps_change {α : Type} {name other : String}
    {f : HeldConsumer → Except Error (α × HeldConsumer)}
    (hheld : s.held? stream consumer = some held)
    (hf : ∀ found answer held', f found = .ok (answer, held') → found.Course [] [] held') :
    (s.change name other f).2.Keeps stream consumer held [] [] := by
  unfold State.change
  split
  · exact keeps_of_streams_eq hheld rfl
  · rename_i answer held' hok
    refine keeps_modifyConsumer hheld ?_
    rintro ⟨rfl, rfl⟩
    rw [consumer_eq_ok_iff_held?.mpr hheld] at hok
    exact hf held answer held' hok

/-- A consumer of the stream that a message goes to gets it if it wants it. -/
theorem keeps_publish (hs : s.streams.Ascending) (hheld : s.held? stream consumer = some held)
    (now : Instant) (freshName subject : String) (headers : List (String × String))
    (payload : Text.Bytes) :
    (s.publish now subject headers payload).2.Keeps stream consumer held
      (arrivals stream held.info.config.filterSubject s
        ⟨now, freshName, .publish subject headers payload⟩) [] := by
  obtain ⟨heldStream, hstream, hconsumer⟩ := held?_eq_some_iff.mp hheld
  unfold arrivals State.publish
  dsimp only
  cases hfind : s.streams.find? fun entry => entry.2.captures subject with
  | none =>
      rw [Option.map_none, if_neg (fun h => nomatch h.1)]
      exact keeps_of_streams_eq hheld rfl
  | some entry =>
      obtain ⟨name, first⟩ := entry
      -- the first stream that captures the subject is the one of the consumer, or another
      have hfirst := NameMap.get?_of_mem hs (List.mem_of_find?_eq_some hfind)
      dsimp only
      rw [Option.map_some]
      unfold Keeps held?
      dsimp only
      rw [NameMap.get?_modify, hstream, Option.map_some, Option.bind_some]
      by_cases hname : name = stream
      · rw [hname, hstream, Option.some.injEq] at hfirst
        subst hname hfirst
        rw [if_pos rfl, HeldStream.get?_store, hconsumer, Option.map_some]
        dsimp only
        by_cases hwanted : Subject.isWanted held.info.config.filterSubject subject
        · rw [if_pos hwanted, if_pos ⟨rfl, hwanted⟩]
          exact ⟨_, rfl, .enqueue held _⟩
        · rw [if_neg hwanted, if_neg (fun h => hwanted h.2)]
          exact ⟨held, rfl, .refl held⟩
      · rw [if_neg hname, if_neg (fun h => hname (Option.some.inj h.1))]
        exact ⟨held, hconsumer, .refl held⟩

theorem keeps_consumerInfo (hheld : s.held? stream consumer = some held) (name other : String) :
    (s.consumerInfo name other).2.Keeps stream consumer held [] [] := by
  unfold State.consumerInfo
  dsimp only
  split
  · exact keeps_of_streams_eq hheld rfl
  · refine keeps_change (s := { s with infoRequests := s.infoRequests + 1 }) hheld ?_
    intro found answer held' hok
    cases hok
    exact .poll found

/-- A consumer is not made again: it is found, or another one is made. -/
theorem keeps_createConsumer (hheld : s.held? stream consumer = some held) (now : Instant)
    (freshName name : String) (config : Config) :
    (s.createConsumer now freshName name config).2.Keeps stream consumer held [] [] := by
  unfold State.createConsumer
  split
  · exact keeps_of_streams_eq hheld rfl
  · rename_i found hfound
    dsimp only
    split
    · split
      · exact keeps_of_streams_eq hheld rfl
      · exact keeps_of_streams_eq hheld rfl
    · rename_i habsent
      obtain ⟨heldStream, hstream, hconsumer⟩ := held?_eq_some_iff.mp hheld
      refine keeps_modifyConsumers hheld ?_
      rintro m hm rfl
      rw [stream_eq_ok_iff, hstream, Option.some.injEq] at hfound
      subst hfound
      -- a consumer is made only under a name that is free, and this one is not
      have hne : config.durableName.getD freshName ≠ consumer := by
        intro heq
        rw [heq, hconsumer] at habsent
        exact nomatch habsent
      rw [NameMap.get?_insert, if_neg hne]
      exact hm

theorem keeps_deleteConsumer (hheld : s.held? stream consumer = some held) (name other : String)
    (hother : ¬(name = stream ∧ other = consumer)) :
    (s.deleteConsumer name other).2.Keeps stream consumer held [] [] := by
  unfold State.deleteConsumer
  split
  · exact keeps_of_streams_eq hheld rfl
  · refine keeps_modifyConsumers hheld ?_
    intro m hm hname
    show (m.erase other).get? consumer = some held
    rw [NameMap.get?_erase, if_neg (fun heq => hother ⟨hname, heq⟩)]
    exact hm

theorem keeps_stepDown (hheld : s.held? stream consumer = some held) (name other : String) :
    (s.stepDown name other).2.Keeps stream consumer held [] [] := by
  unfold State.stepDown
  refine keeps_change (s := { s with stepDowns := s.stepDowns + 1 }) hheld ?_
  intro found answer held' hok
  split at hok
  · exact nomatch hok
  · cases hok
    exact .stepDown found

theorem keeps_respondEmpty (hheld : s.held? stream consumer = some held) (message : Message) :
    (s.respondEmpty message).2.Keeps stream consumer held [] [] := by
  unfold State.respondEmpty
  split
  · exact keeps_of_streams_eq hheld rfl
  · split
    · exact keeps_of_streams_eq hheld rfl
    · dsimp only
      unfold State.acknowledge
      split
      · exact keeps_of_streams_eq hheld rfl
      · exact keeps_modifyConsumer hheld fun _ => .quiet rfl rfl rfl

/-- What comes of asking a consumer that is there for its next message. -/
theorem fetchNext_eq {heldStream : HeldStream} (hstream : s.streams.get? stream = some heldStream)
    (hconsumer : heldStream.consumers.get? consumer = some held) (expiry : Duration) :
    s.fetchNext stream consumer expiry =
      if held.info.config.isPush then (.error (.broker (notPull stream consumer)), s)
      else
        ((held.deliver heldStream).1.elim (.error (noMessage stream consumer expiry)) .ok,
          s.modifyConsumer stream consumer fun _ => (held.deliver heldStream).2) := by
  unfold State.fetchNext
  rw [stream_eq_ok_iff.mpr hstream, consumer_eq_ok_iff.mpr ⟨heldStream, hstream, hconsumer⟩]
  dsimp only
  split
  · rfl
  · cases (held.deliver heldStream).1 with
    | none => rfl
    | some message => rfl

theorem keeps_fetchNext (h : s.Coherent) (hheld : s.held? stream consumer = some held)
    (now : Instant) (freshName name other : String) (expiry : Duration) :
    (s.fetchNext name other expiry).2.Keeps stream consumer held []
      (handedTo stream consumer s ⟨now, freshName, .request (.fetchNext name other expiry)⟩) := by
  unfold handedTo
  dsimp only
  by_cases hsame : name = stream ∧ other = consumer
  · rw [if_pos hsame]
    obtain ⟨rfl, rfl⟩ := hsame
    obtain ⟨heldStream, hstream, hconsumer⟩ := held?_eq_some_iff.mp hheld
    rw [fetchNext_eq hstream hconsumer]
    split
    · exact keeps_of_streams_eq hheld rfl
    · have hcourse := HeldConsumer.Course.deliver
        ((h.streams name heldStream hstream).consumers other held hconsumer)
      refine ⟨(held.deliver heldStream).2, ?_, ?_⟩
      · rw [held?_modifyConsumer, hheld, Option.map_some, if_pos ⟨rfl, rfl⟩]
      · dsimp only
        cases hmessage : (held.deliver heldStream).1 with
        | none =>
            rw [hmessage] at hcourse
            exact hcourse
        | some message =>
            rw [hmessage] at hcourse
            exact hcourse
  · rw [if_neg hsame]
    unfold State.fetchNext
    split
    · split
      · exact keeps_of_streams_eq hheld rfl
      · dsimp only
        split
        · exact keeps_modifyConsumer hheld fun heq => absurd heq hsame
        · exact keeps_modifyConsumer hheld fun heq => absurd heq hsame
    · exact keeps_of_streams_eq hheld rfl
    · exact keeps_of_streams_eq hheld rfl

/-- The part of a subscription that is pushed for one consumer. -/
theorem pushedTo_eq {heldStream : HeldStream} (hstream : s.streams.get? stream = some heldStream)
    (hconsumer : heldStream.consumers.get? consumer = some held) (subject : String) :
    s.pushedTo stream consumer subject =
      if held.info.config.deliverSubject = some subject then (held.deliverAll heldStream).1
      else [] := by
  unfold pushedTo
  rw [hstream]
  dsimp only
  rw [hconsumer]

theorem held?_subscribe (s : State) (subject stream consumer : String) :
    (s.subscribe subject).2.held? stream consumer =
      (s.streams.get? stream).bind fun heldStream =>
        (heldStream.consumers.get? consumer).map fun held =>
          if held.info.config.deliverSubject = some subject then (held.deliverAll heldStream).2
          else held := by
  unfold held?
  rw [streams_subscribe, NameMap.get?_map_values]
  cases s.streams.get? stream with
  | none => rfl
  | some heldStream =>
      rw [Option.map_some, Option.bind_some, HeldStream.get?_drain]
      rfl

theorem keeps_subscribe (h : s.Coherent) (hheld : s.held? stream consumer = some held)
    (subject : String) :
    (s.subscribe subject).2.Keeps stream consumer held [] (s.pushedTo stream consumer subject) := by
  obtain ⟨heldStream, hstream, hconsumer⟩ := held?_eq_some_iff.mp hheld
  have hcoherent := h.streams stream heldStream hstream
  unfold Keeps
  rw [held?_subscribe, hstream, Option.bind_some, hconsumer, Option.map_some,
    pushedTo_eq hstream hconsumer]
  split
  · refine ⟨_, rfl, ?_⟩
    exact .deliverUpTo (hcoherent.consumers consumer held hconsumer) hcoherent.numbered _
  · exact ⟨held, rfl, .refl held⟩

/-- A step that does not end a consumer keeps it on its course. -/
theorem keeps_after (h : s.Coherent) (hheld : s.held? stream consumer = some held) (step : Step)
    (hends : ¬step.ends stream consumer) :
    (s.after step).Keeps stream consumer held
      (arrivals stream held.info.config.filterSubject s step)
      (handedTo stream consumer s step) := by
  obtain ⟨now, freshName, operation⟩ := step
  cases operation with
  | addStream name subjects =>
      have hother : name ≠ stream := hends
      refine ⟨held, ?_, .refl held⟩
      show ((s.streams.insert name { subjects := subjects }).get? stream).bind _ = some held
      rw [NameMap.get?_insert, if_neg hother]
      exact hheld
  | publish subject headers payload =>
      exact keeps_publish h.ascending hheld now freshName subject headers payload
  | pushRaw subject message => exact keeps_of_streams_eq hheld rfl
  | setCluster name other cluster =>
      refine keeps_change hheld ?_
      intro found answer held' hok
      cases hok
      exact .quiet rfl rfl rfl
  | electAfter name other polls =>
      refine keeps_change hheld ?_
      intro found answer held' hok
      cases hok
      exact .quiet rfl rfl rfl
  | failInfo count => exact keeps_of_streams_eq hheld rfl
  | failAcks fail => exact keeps_of_streams_eq hheld rfl
  | request r =>
      cases r with
      | streamInfo name => exact keeps_of_streams_eq hheld rfl
      | streamNames => exact keeps_of_streams_eq hheld rfl
      | consumerNames name => exact keeps_of_streams_eq hheld rfl
      | consumerInfo name other => exact keeps_consumerInfo hheld name other
      | createConsumer name config => exact keeps_createConsumer hheld now freshName name config
      | deleteConsumer name other => exact keeps_deleteConsumer hheld name other hends
      | stepDown name other => exact keeps_stepDown hheld name other
      | fetchNext name other expiry => exact keeps_fetchNext h hheld now freshName name other expiry
      | subscribe subject => exact keeps_subscribe h hheld subject
      | respondEmpty message => exact keeps_respondEmpty hheld message
      | flush => exact keeps_of_streams_eq hheld rfl

/-- Steps that do not end a consumer keep it on its course. -/
theorem keeps_run (h : s.Coherent) (hheld : s.held? stream consumer = some held)
    (later : List Step) (hends : ∀ step ∈ later, ¬step.ends stream consumer) :
    (s.run later).Keeps stream consumer held
      (s.history (arrivals stream held.info.config.filterSubject) later)
      (s.history (handedTo stream consumer) later) := by
  induction later generalizing s held with
  | nil => exact ⟨held, hheld, .refl held⟩
  | cons step later ih =>
      obtain ⟨hstep, hlater⟩ := List.forall_mem_cons.mp hends
      obtain ⟨held₁, hheld₁, hcourse₁⟩ := keeps_after h hheld step hstep
      obtain ⟨held₂, hheld₂, hcourse₂⟩ := ih (h.after step) hheld₁ hlater
      -- the filter is still the same, so the arrivals are those of one consumer
      have hfilter : held₁.info.config = held.info.config :=
        congrArg (·.2.2) hcourse₁.identity_eq
      rw [hfilter] at hcourse₂
      exact ⟨held₂, hheld₂, hcourse₁.trans hcourse₂⟩

end State

/-! ## From its creation on -/

namespace State

variable {s : State} {stream : String} {heldStream : HeldStream}

/-- A consumer that was not there starts with what its policy picks. -/
theorem held?_createConsumer (hstream : s.streams.get? stream = some heldStream)
    {freshName : String} {config : Config}
    (habsent : heldStream.consumers.get? (config.durableName.getD freshName) = none)
    (now : Instant) :
    (s.createConsumer now freshName stream config).2.held? stream
        (config.durableName.getD freshName) =
      some (newConsumer stream (config.durableName.getD freshName) now heldStream.messages
        config) := by
  unfold State.createConsumer
  rw [stream_eq_ok_iff.mpr hstream]
  dsimp only
  rw [habsent]
  dsimp only
  rw [held?_modifyConsumers, hstream, Option.bind_some, if_pos rfl, NameMap.get?_insert,
    if_pos rfl]

/-- A pull consumer that is there has no message exactly if none is pending. -/
theorem fetchNext_answer (h : s.Coherent) {consumer : String} {held : HeldConsumer}
    (hheld : s.held? stream consumer = some held) (hpull : held.info.config.isPush = false)
    (expiry : Duration) :
    (held.pending = [] → (s.fetchNext stream consumer expiry).1 =
      .error (noMessage stream consumer expiry)) ∧
    (held.pending ≠ [] → ∃ message, (s.fetchNext stream consumer expiry).1 = .ok message) := by
  obtain ⟨heldStream, hstream, hconsumer⟩ := held?_eq_some_iff.mp hheld
  rw [fetchNext_eq hstream hconsumer, if_neg (Bool.eq_false_iff.mp hpull)]
  cases hpending : held.pending with
  | nil =>
      refine ⟨fun _ => ?_, fun hne => absurd rfl hne⟩
      unfold HeldConsumer.deliver
      rw [hpending]
      rfl
  | cons sequence left =>
      refine ⟨fun hnil => absurd hnil (List.cons_ne_nil sequence left), fun _ => ?_⟩
      have hcoherent := (h.streams stream heldStream hstream).consumers consumer held hconsumer
      obtain ⟨stored, -, -, hdeliver⟩ := hcoherent.deliver_eq rfl hpending
      rw [hdeliver]
      exact ⟨_, rfl⟩

/-- After any steps a consumer is created, and then come any steps that do not end it.  What it was
handed until then, followed by what is pending, is what it started with, followed by what arrived;
its messages are counted from 1 on, and a pull fails exactly if nothing is pending.  Whenever there
is a subscription, its answer is what is outside of any stream and then what is handed out for each
of the consumers. -/
theorem handedTo_append_pending (before later : List Step) (now : Instant)
    (freshName stream : String) (config : Config) (heldStream : HeldStream)
    (hstream : (({} : State).run before).streams.get? stream = some heldStream)
    (habsent : heldStream.consumers.get? (config.durableName.getD freshName) = none)
    (hlater : ∀ step ∈ later, ¬step.ends stream (config.durableName.getD freshName)) :
    let name := config.durableName.getD freshName
    let created := (({} : State).run before).after
      ⟨now, freshName, .request (.createConsumer stream config)⟩
    let s := created.run later
    ∃ held sequences,
      s.held? stream name = some held ∧ held.identity = (stream, name, config) ∧
      (created.history (handedTo stream name) later).map Message.sequences? =
        (sequences.zipIdx 1).map some ∧
      sequences ++ held.pending =
        initialSequences heldStream.messages config ++
          created.history (arrivals stream config.filterSubject) later ∧
      (config.isPush = false → ∀ expiry,
        (held.pending = [] →
          (s.fetchNext stream name expiry).1 = .error (noMessage stream name expiry)) ∧
        (held.pending ≠ [] → ∃ message, (s.fetchNext stream name expiry).1 = .ok message)) ∧
      ∀ (steps : List Step) (subject : String),
        let t := created.run steps
        (t.subscribe subject).1 =
          (t.raw.get? subject).getD [] ++
            t.streams.flatMap fun stream =>
              stream.2.consumers.flatMap fun consumer =>
                t.pushedTo stream.1 consumer.1 subject := by
  intro name created s
  have hcreated : created.Coherent := (coherent_empty.run before).after _
  have hheld := held?_createConsumer hstream habsent now
  obtain ⟨held, hheld', hcourse⟩ := keeps_run hcreated hheld later hlater
  obtain ⟨sequences, hpending, hhanded, -⟩ := hcourse.balance
  have hidentity : held.identity = (stream, name, config) := hcourse.identity_eq
  refine ⟨held, sequences, hheld', hidentity, hhanded, hpending, ?_,
    fun steps => subscribe_fst (hcreated.run steps)⟩
  intro hpull expiry
  have hconfig : held.info.config = config := congrArg (·.2.2) hidentity
  exact fetchNext_answer (hcreated.run later) hheld' (hconfig ▸ hpull) expiry

/-- A message that was there before the consumer, and one that comes later. -/
theorem handedTo_append_pending_two :
    let before : List Step :=
      [⟨.epoch, "", .addStream "S" ["a"]⟩, ⟨.epoch, "", .publish "a" [] []⟩]
    let created := (({} : State).run before).after
      ⟨.epoch, "", .request (.createConsumer "S" { durableName := some "D" })⟩
    let later : List Step :=
      [⟨.epoch, "", .publish "a" [] []⟩, ⟨.epoch, "", .request (.fetchNext "S" "D" ⟨0⟩)⟩]
    ∃ held sequences,
      (created.run later).held? "S" "D" = some held ∧
      (created.history (handedTo "S" "D") later).map Message.sequences? =
        (sequences.zipIdx 1).map some ∧
      sequences ++ held.pending = [1, 2] := by
  intro before created later
  have hlater : ∀ step ∈ later, ¬step.ends "S" "D" :=
    List.forall_mem_cons.mpr ⟨id, List.forall_mem_cons.mpr ⟨id, List.forall_mem_nil _⟩⟩
  obtain ⟨held, sequences, hheld, -, hhanded, hpending, -, -⟩ :=
    handedTo_append_pending before later .epoch "" "S" { durableName := some "D" }
      { subjects := ["a"], messages := [⟨1, "a", [], [], .epoch⟩] } (by decide) rfl hlater
  exact ⟨held, sequences, hheld, hhanded, hpending⟩

end State

end JetStream.Broker.Memory

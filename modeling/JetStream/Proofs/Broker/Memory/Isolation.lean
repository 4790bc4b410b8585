import JetStream.Proofs.Broker.Memory.Lookup

/-!
# Isolation of streams and consumers

An operation is about some streams and some consumers, and everything else stays exactly as it was.
Also in what it is about, most operations leave most as it was: messages are only ever added, and
what is handed out or acknowledged makes no difference to what a consumer is and who holds it.

## Strategy

`Step.Fills` and `Step.Concerns` say what a step is about, without a look at what it does there.
The frame is then one case analysis for all steps, with the equation for the look-up of each
operation; that a whole stream stays is put together from its look-ups, since a collection in
ascending order is determined by them.
-/

namespace JetStream.Broker.Memory

/-! ## What a step is about -/

/-- The stream is the first one, in the order of the names, that captures the subject. -/
structure State.IsFirst (s : State) (subject stream : String) : Prop where
  captures : ∃ held, s.streams.get? stream = some held ∧ held.captures subject = true
  le_of_captures : ∀ other held, s.streams.get? other = some held →
    held.captures subject = true → stream ≤ other

/-- The step is about the subjects and messages of a stream. -/
def Step.Fills (step : Step) (s : State) (stream : String) : Prop :=
  match step.operation with
  | .addStream name _ => name = stream
  | .publish subject _ _ => s.IsFirst subject stream
  | _ => False

/-- The step is about a consumer of a stream. -/
def Step.Concerns (step : Step) (s : State) (stream consumer : String) : Prop :=
  match step.operation with
  | .addStream name _ => name = stream
  | .publish subject _ _ =>
      s.IsFirst subject stream ∧ ∃ held, s.held? stream consumer = some held ∧
        Subject.isWanted held.info.config.filterSubject subject = true
  | .request (.createConsumer name config) =>
      name = stream ∧ config.durableName.getD step.freshName = consumer
  | .request (.subscribe subject) =>
      ∃ held, s.held? stream consumer = some held ∧
        held.info.config.deliverSubject = some subject
  | .request (.respondEmpty message) =>
      ∃ reply details, message.reply = some reply ∧ Metadata.parse? reply = some details ∧
        details.stream = stream ∧ details.consumer = consumer
  | operation => operation.consumer? = some (stream, consumer)

/-- The step hands out messages, or takes in that one was acknowledged. -/
def Step.ExchangesMessages (step : Step) : Prop :=
  match step.operation with
  | .request (.fetchNext _ _ _) | .request (.subscribe _) | .request (.respondEmpty _) => True
  | _ => False

/-! ## What it may change there -/

namespace HeldConsumer

/-- Nothing has changed but what is unacknowledged, the count of it and the floor below it. -/
def OnlyAcknowledges (held held' : HeldConsumer) : Prop :=
  ∃ unacked count floor, held' =
    { held with
      unacked := unacked
      info := { held.info with ackPending := count, ackFloor := floor } }

/-- Nothing has changed but what is pending and unacknowledged, and how far both have come. -/
def OnlyDelivers (held held' : HeldConsumer) : Prop :=
  ∃ pending unacked delivered floor unackedCount pendingCount, held' =
    { held with
      pending := pending
      unacked := unacked
      info :=
        { held.info with
          delivered := delivered
          ackFloor := floor
          ackPending := unackedCount
          pending := pendingCount } }

end HeldConsumer

/-- A step from one state to the next leaves everything as it was that it is not about. -/
structure Isolates (s : State) (step : Step) (s' : State) : Prop where
  /-- A new stream takes the place of the one with its name. -/
  added : ∀ name subjects, step.operation = .addStream name subjects →
    s'.streams.get? name = some { subjects := subjects }
  /-- A message is put at the end of the first stream that captures its subject. -/
  stored : ∀ stream subject headers payload,
    step.operation = .publish subject headers payload → s.IsFirst subject stream →
      ∃ subjects messages, s.contents? stream = some (subjects, messages) ∧
        s'.contents? stream = some
          (subjects, messages ++ [⟨messages.length + 1, subject, headers, payload, step.now⟩])
  /-- It waits for those consumers of the stream that want it. -/
  enqueued : ∀ stream consumer held subject headers payload,
    step.operation = .publish subject headers payload → s.IsFirst subject stream →
      s.held? stream consumer = some held →
      Subject.isWanted held.info.config.filterSubject subject = true →
        s'.held? stream consumer = some
          { held with
            pending := held.pending ++ [(s.messages stream).length + 1]
            info := { held.info with pending := held.pending.length + 1 } }
  contents_eq : ∀ stream, ¬step.Fills s stream → s'.contents? stream = s.contents? stream
  consumer_eq : ∀ stream consumer, ¬step.Concerns s stream consumer →
    s'.held? stream consumer = s.held? stream consumer
  stream_eq : ∀ stream, ¬step.Fills s stream →
    (∀ consumer, ¬step.Concerns s stream consumer) →
      s'.streams.get? stream = s.streams.get? stream
  exchanged : step.ExchangesMessages → ∀ stream consumer,
    Option.Rel HeldConsumer.OnlyDelivers (s.held? stream consumer) (s'.held? stream consumer)
  acknowledged : ∀ message, step.operation = .request (.respondEmpty message) →
    ∀ stream consumer, Option.Rel HeldConsumer.OnlyAcknowledges
      (s.held? stream consumer) (s'.held? stream consumer)

namespace State

variable {s : State} {step : Step} {stream consumer : String}

/-! ## The first stream -/

theorem isFirst_iff (hs : s.streams.Ascending) {subject : String} :
    s.IsFirst subject stream ↔
      (s.streams.find? fun entry => entry.2.captures subject).map (·.1) = some stream := by
  have hfirst {name : String} {found : HeldStream}
      (hfind : s.streams.find? (fun entry => entry.2.captures subject) = some (name, found)) :
      s.IsFirst subject name := by
    have hfound := NameMap.get?_of_mem hs (List.mem_of_find?_eq_some hfind)
    have hcaptures := List.find?_some hfind
    refine ⟨⟨found, hfound, hcaptures⟩, ?_⟩
    intro other held hother hcaptures
    exact NameMap.le_of_find? (p := (·.captures subject)) hs hfind hother hcaptures
  constructor
  · intro h
    obtain ⟨held, hheld, hcaptures⟩ := h.captures
    cases hfind : s.streams.find? fun entry => entry.2.captures subject with
    | none =>
        have hnot := List.find?_eq_none.mp hfind _ (NameMap.mem_of_get? hheld)
        exact absurd hcaptures hnot
    | some entry =>
        obtain ⟨name, found⟩ := entry
        have hname := hfirst hfind
        obtain ⟨held', hheld', hcaptures'⟩ := hname.captures
        have hle := h.le_of_captures name held' hheld' hcaptures'
        have hge := hname.le_of_captures stream held hheld hcaptures
        exact congrArg some (String.le_antisymm hge hle)
  · intro h
    obtain ⟨⟨name, found⟩, hfind, rfl⟩ := Option.map_eq_some_iff.mp h
    exact hfirst hfind

/-! ## The frame -/

theorem contents?_of_not_fills (h : s.Coherent) (hother : ¬step.Fills s stream) :
    (s.after step).contents? stream = s.contents? stream := by
  obtain ⟨now, freshName, operation⟩ := step
  cases operation with
  | addStream name subjects =>
      have hne : name ≠ stream := hother
      show ((s.streams.insert name { subjects := subjects }).get? stream).map _ = _
      rw [NameMap.get?_insert, if_neg hne]
      rfl
  | publish subject headers payload =>
      have hother : ¬s.IsFirst subject stream := hother
      rw [isFirst_iff h.ascending] at hother
      show (s.publish now subject headers payload).2.contents? stream = _
      rw [contents?_publish h]
      simp only [hother, if_false, Option.map_id']
  | _ => exact contents?_after (by exact fun _ _ => nofun) (by exact fun _ _ _ => nofun)

/-- Where an operation names a consumer, it is another one. -/
theorem ne_of_named_ne {name other : String}
    (hnamed : some (name, other) ≠ some (stream, consumer)) :
    ¬(name = stream ∧ other = consumer) := by
  rintro ⟨rfl, rfl⟩
  exact hnamed rfl

theorem held?_of_not_concerns (h : s.Coherent) (hother : ¬step.Concerns s stream consumer) :
    (s.after step).held? stream consumer = s.held? stream consumer := by
  obtain ⟨now, freshName, operation⟩ := step
  have hkept {found : Option HeldConsumer} {f : HeldConsumer → HeldConsumer}
      (hf : ∀ held, found = some held → f held = held) : found.map f = found := by
    rw [Option.map_congr hf, Option.map_id']
  cases operation with
  | addStream name subjects => exact held?_addStream name subjects |>.trans (if_neg hother)
  | publish subject headers payload =>
      refine (held?_publish h now subject headers payload).trans (hkept fun held hheld => if_neg ?_)
      rintro ⟨hfirst, hwanted⟩
      exact hother ⟨(isFirst_iff h.ascending).mpr hfirst, held, hheld, hwanted⟩
  | setCluster name other cluster =>
      exact (held?_change name other _).trans (hkept fun held _ => if_neg (ne_of_named_ne hother))
  | electAfter name other polls =>
      exact (held?_change name other _).trans (hkept fun held _ => if_neg (ne_of_named_ne hother))
  | pushRaw subject message => rfl
  | failInfo count => rfl
  | failAcks fail => rfl
  | request r =>
      cases r with
      | consumerInfo name other =>
          refine (held?_consumerInfo name other).trans (hkept fun held _ => if_neg ?_)
          exact fun hsame => ne_of_named_ne hother hsame.2
      | createConsumer name config =>
          exact (held?_createConsumer_or now freshName name config).trans (if_neg hother)
      | deleteConsumer name other =>
          exact (held?_deleteConsumer name other).trans (if_neg (ne_of_named_ne hother))
      | stepDown name other =>
          refine (held?_stepDown name other).trans (hkept fun held _ => if_neg ?_)
          exact fun hsame => ne_of_named_ne hother hsame.1
      | fetchNext name other expiry =>
          refine (held?_fetchNext name other expiry).trans
            (Option.bind_congr fun heldStream _ => hkept fun held _ => if_neg ?_)
          exact fun hsame => ne_of_named_ne hother hsame.1
      | subscribe subject =>
          refine (held?_subscribe s subject stream consumer).trans
            (Option.bind_congr fun heldStream hstream => hkept fun held hheld => if_neg ?_)
          intro hsubject
          exact hother ⟨held, held?_eq_some_iff.mpr ⟨heldStream, hstream, hheld⟩, hsubject⟩
      | respondEmpty message =>
          refine (held?_respondEmpty_ite message).trans (hkept fun held _ => ?_)
          split
          next => rfl
          next =>
            have hnone : deliveredTo? stream consumer message = none := by
              refine Option.eq_none_iff_forall_ne_some.mpr fun sequence hsequence => ?_
              obtain ⟨details, hdetails, -⟩ := Option.map_eq_some_iff.mp hsequence
              obtain ⟨hmetadata, hnamed⟩ := Option.filter_eq_some_iff.mp hdetails
              obtain ⟨reply, hreply, hparse⟩ := Option.bind_eq_some_iff.mp hmetadata
              exact hother ⟨reply, details, hreply, hparse, of_decide_eq_true hnamed⟩
            rw [hnone]
            rfl
      | streamInfo name => rfl
      | streamNames => rfl
      | consumerNames name => rfl
      | flush => rfl

/-! ## Messages that come in, are handed out and acknowledged -/

theorem contents?_of_isFirst (h : s.Coherent) (now : Instant) {subject : String}
    (headers : List (String × String)) (payload : Text.Bytes) (hfirst : s.IsFirst subject stream) :
    ∃ subjects messages, s.contents? stream = some (subjects, messages) ∧
      (s.publish now subject headers payload).2.contents? stream = some
        (subjects, messages ++ [⟨messages.length + 1, subject, headers, payload, now⟩]) := by
  obtain ⟨heldStream, hstream, -⟩ := hfirst.captures
  have hcontents : s.contents? stream = some (heldStream.subjects, heldStream.messages) := by
    rw [contents?, hstream, Option.map_some]
  refine ⟨heldStream.subjects, heldStream.messages, hcontents, ?_⟩
  rw [contents?_publish h, hcontents, Option.map_some,
    if_pos ((isFirst_iff h.ascending).mp hfirst)]

end State

namespace HeldConsumer

variable {held held' held'' : HeldConsumer}

theorem OnlyDelivers.refl (held : HeldConsumer) : held.OnlyDelivers held :=
  ⟨_, _, _, _, _, _, rfl⟩

theorem OnlyDelivers.trans (h : held.OnlyDelivers held') (h' : held'.OnlyDelivers held'') :
    held.OnlyDelivers held'' := by
  obtain ⟨_, _, _, _, _, _, rfl⟩ := h
  obtain ⟨_, _, _, _, _, _, rfl⟩ := h'
  exact ⟨_, _, _, _, _, _, rfl⟩

theorem onlyDelivers_handOut (held : HeldConsumer) (sequence : Nat) (left : List Nat) :
    held.OnlyDelivers (held.handOut sequence left) := by
  unfold handOut
  dsimp only
  split
  · exact ⟨_, _, _, _, _, _, rfl⟩
  · exact ⟨_, _, _, _, _, _, rfl⟩

theorem onlyDelivers_deliver (held : HeldConsumer) (stream : HeldStream) :
    held.OnlyDelivers (held.deliver stream).2 := by
  unfold deliver
  split
  · exact .refl held
  · split
    · exact ⟨_, _, _, _, _, _, rfl⟩
    · exact held.onlyDelivers_handOut _ _

theorem onlyDelivers_deliverUpTo (held : HeldConsumer) (stream : HeldStream) (n : Nat) :
    held.OnlyDelivers (held.deliverUpTo stream n).2 := by
  induction n generalizing held with
  | zero => exact .refl held
  | succ n ih =>
      have hdeliver := held.onlyDelivers_deliver stream
      unfold deliverUpTo
      split
      · rename_i held' hnone
        rw [hnone] at hdeliver
        exact hdeliver
      · rename_i message held' hsome
        rw [hsome] at hdeliver
        exact hdeliver.trans (ih held')

theorem OnlyAcknowledges.onlyDelivers (h : held.OnlyAcknowledges held') :
    held.OnlyDelivers held' := by
  obtain ⟨_, _, _, rfl⟩ := h
  exact ⟨_, _, _, _, _, _, rfl⟩

theorem onlyAcknowledges_acknowledge (held : HeldConsumer) (sequence : Nat) :
    held.OnlyAcknowledges (held.acknowledge sequence) :=
  ⟨_, _, _, rfl⟩

end HeldConsumer

namespace State

variable {s : State} {step : Step} {stream consumer : String}

theorem rel_map {R : HeldConsumer → HeldConsumer → Prop} {f : HeldConsumer → HeldConsumer}
    {found found' : Option HeldConsumer} (heq : found' = found.map f)
    (hf : ∀ held, R held (f held)) : Option.Rel R found found' := by
  subst heq
  cases found with
  | none => exact .none
  | some held => exact .some (hf held)

theorem rel_mono {R R' : HeldConsumer → HeldConsumer → Prop} {found found' : Option HeldConsumer}
    (himp : ∀ held held', R held held' → R' held held') (h : Option.Rel R found found') :
    Option.Rel R' found found' := by
  cases h with
  | none => exact .none
  | some hheld => exact .some (himp _ _ hheld)

theorem rel_bind {R : HeldConsumer → HeldConsumer → Prop}
    {f : HeldStream → HeldConsumer → HeldConsumer} {found' : Option HeldConsumer}
    (heq : found' = (s.streams.get? stream).bind fun heldStream =>
      (heldStream.consumers.get? consumer).map (f heldStream))
    (hf : ∀ heldStream held, R held (f heldStream held)) :
    Option.Rel R (s.held? stream consumer) found' := by
  unfold held?
  cases hstream : s.streams.get? stream with
  | none =>
      rw [hstream] at heq
      subst heq
      exact .none
  | some heldStream =>
      rw [hstream] at heq
      exact rel_map heq (hf heldStream)

theorem onlyAcknowledges_respondEmpty (message : Message) (stream consumer : String) :
    Option.Rel HeldConsumer.OnlyAcknowledges (s.held? stream consumer)
      ((s.respondEmpty message).2.held? stream consumer) := by
  refine rel_map (held?_respondEmpty_ite message) fun held => ?_
  split
  next => exact ⟨_, _, _, rfl⟩
  next =>
    cases deliveredTo? stream consumer message with
    | none => exact ⟨_, _, _, rfl⟩
    | some sequence => exact held.onlyAcknowledges_acknowledge sequence

theorem onlyDelivers_after (hexchange : step.ExchangesMessages) (stream consumer : String) :
    Option.Rel HeldConsumer.OnlyDelivers (s.held? stream consumer)
      ((s.after step).held? stream consumer) := by
  obtain ⟨now, freshName, operation⟩ := step
  cases operation with
  | request r =>
      cases r with
      | fetchNext name other expiry =>
          refine rel_bind (held?_fetchNext name other expiry) fun heldStream held => ?_
          split
          next => exact held.onlyDelivers_deliver heldStream
          next => exact .refl held
      | subscribe subject =>
          refine rel_bind (held?_subscribe s subject stream consumer) fun heldStream held => ?_
          split
          next => exact held.onlyDelivers_deliverUpTo heldStream _
          next => exact .refl held
      | respondEmpty message =>
          exact rel_mono (fun _ _ hheld => hheld.onlyDelivers)
            (onlyAcknowledges_respondEmpty message stream consumer)
      | _ => exact hexchange.elim
  | _ => exact hexchange.elim

/-! ## Whole streams -/

theorem eq_of_contents?_eq {s' : State} (h : s.Coherent) (h' : s'.Coherent)
    (hcontents : s'.contents? stream = s.contents? stream)
    (hconsumers : ∀ consumer, s'.held? stream consumer = s.held? stream consumer) :
    s'.streams.get? stream = s.streams.get? stream := by
  unfold contents? at hcontents
  cases hstream : s.streams.get? stream with
  | none =>
      rw [hstream, Option.map_none, Option.map_eq_none_iff] at hcontents
      exact hcontents
  | some heldStream =>
      rw [hstream, Option.map_some] at hcontents
      obtain ⟨heldStream', hstream', hsame⟩ := Option.map_eq_some_iff.mp hcontents
      have hascending := (h.streams stream heldStream hstream).ascending
      have hascending' := (h'.streams stream heldStream' hstream').ascending
      have hlookups : ∀ consumer,
          heldStream'.consumers.get? consumer = heldStream.consumers.get? consumer := by
        intro consumer
        have hconsumer := hconsumers consumer
        rw [held?, held?, hstream, hstream'] at hconsumer
        exact hconsumer
      have hentries := NameMap.eq_of_get?_eq hascending' hascending hlookups
      rw [hstream']
      cases heldStream
      cases heldStream'
      cases hentries
      cases hsame
      rfl

/-! ## Every state -/

/-- Whatever happened to the broker, a step leaves everything as it was that it is not about. -/
theorem isolates_run (before : List Step) (step : Step) :
    Isolates (({} : State).run before) step ((({} : State).run before).after step) := by
  generalize hs : ({} : State).run before = s
  have h : s.Coherent := hs ▸ coherent_run before
  constructor
  case added =>
    intro name subjects hoperation
    obtain ⟨now, freshName, operation⟩ := step
    subst hoperation
    show (s.streams.insert name { subjects := subjects }).get? name = _
    rw [NameMap.get?_insert, if_pos rfl]
  case stored =>
    intro stream subject headers payload hoperation hfirst
    obtain ⟨now, freshName, operation⟩ := step
    subst hoperation
    exact contents?_of_isFirst h now headers payload hfirst
  case enqueued =>
    intro stream consumer held subject headers payload hoperation hfirst hheld hwanted
    obtain ⟨now, freshName, operation⟩ := step
    subst hoperation
    show (s.publish now subject headers payload).2.held? stream consumer = _
    rw [held?_publish h, hheld, Option.map_some,
      if_pos ⟨(isFirst_iff h.ascending).mp hfirst, hwanted⟩]
    simp [HeldConsumer.enqueue]
  case contents_eq => exact fun stream hother => contents?_of_not_fills h hother
  case consumer_eq => exact fun stream consumer hother => held?_of_not_concerns h hother
  case stream_eq =>
    intro stream hcontents hconsumers
    exact eq_of_contents?_eq h (h.after step) (contents?_of_not_fills h hcontents)
      fun consumer => held?_of_not_concerns h (hconsumers consumer)
  case exchanged => exact onlyDelivers_after
  case acknowledged =>
    intro message hoperation stream consumer
    obtain ⟨now, freshName, operation⟩ := step
    subst hoperation
    exact onlyAcknowledges_respondEmpty message stream consumer

end State

end JetStream.Broker.Memory

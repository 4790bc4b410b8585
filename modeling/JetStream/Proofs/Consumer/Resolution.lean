import JetStream.Consumer.Resolution

/-!
# Resolutions taken apart

A resolution asks, tells and may fail.  This file is about those that come to a value: what each
kind of step gives, and what the steps have given once the whole configuration is there.

## Strategy

`Resolve.Gives` relates the transcript at the start of a computation to its value and the transcript
at its end.  `gives_bind` takes a computation apart at a bind, with the value and the transcript in
between, so nothing that is proved later unfolds the monad.  `Resolution` holds what is left when
`resolveFlags` is taken apart as a whole; everything about resolved configurations is read off it.
-/

namespace JetStream.Consumer

namespace Resolve

variable {α β : Type} {t t' : Transcript}

/-- The computation from a transcript on: its result, and the transcript at its end. -/
def runFrom (m : Resolve α) (t : Transcript) : Except Error α × Transcript :=
  (ExceptT.run m).run t

theorem runFrom_bind (m : Resolve α) (f : α → Resolve β) (t : Transcript) :
    (m >>= f).runFrom t =
      match m.runFrom t with
      | (.ok a, between) => (f a).runFrom between
      | (.error e, between) => (.error e, between) := by
  show (ExceptT.run m >>= ExceptT.bindCont f : StateM Transcript _).run t = _
  rw [StateT.run_bind]
  unfold runFrom
  rcases (ExceptT.run m).run t with ⟨_ | a, between⟩
  · rfl
  · rfl

/-- From one transcript on, the computation comes to a value and leaves the other. -/
def Gives (m : Resolve α) (t : Transcript) (value : α) (t' : Transcript) : Prop :=
  (ExceptT.run m).run t = (.ok value, t')

theorem gives_iff {m : Resolve α} {value : α} :
    m.Gives t value t' ↔ m.runFrom t = (.ok value, t') :=
  Iff.rfl

theorem gives_of_outcome {m : Resolve α} {value : α} (h : m.outcome.1 = .ok value) :
    m.Gives {} value m.outcome.2 :=
  Prod.ext h rfl

@[simp] theorem gives_pure {a value : α} :
    (pure a : Resolve α).Gives t value t' ↔ a = value ∧ t = t' := by
  show ((Except.ok a, t) : Except Error α × Transcript) = (.ok value, t') ↔ _
  simp

theorem gives_bind {m : Resolve α} {f : α → Resolve β} {value : β} :
    (m >>= f).Gives t value t' ↔
      ∃ a between, m.Gives t a between ∧ (f a).Gives between value t' := by
  simp only [gives_iff, runFrom_bind]
  rcases m.runFrom t with ⟨e | a, between⟩
  · constructor
    · intro h
      exact nomatch congrArg Prod.fst h
    · rintro ⟨a, after, hm, -⟩
      exact nomatch congrArg Prod.fst hm
  · constructor
    · intro h
      exact ⟨a, between, rfl, h⟩
    · rintro ⟨_, _, hm, hf⟩
      cases hm
      exact hf

@[simp] theorem not_gives_throw {e : Error} {value : α} :
    ¬(throw e : Resolve α).Gives t value t' := by
  intro h
  exact nomatch congrArg Prod.fst h

theorem ofExcept_ok (a : α) : (ofExcept (.ok a) : Resolve α) = pure a :=
  rfl

@[simp] theorem gives_ofExcept {result : Except Error α} {value : α} :
    (ofExcept result : Resolve α).Gives t value t' ↔ result = .ok value ∧ t = t' := by
  cases result with
  | error e => simp [ofExcept]
  | ok a => simp [ofExcept]

@[simp] theorem gives_tell {events : List Log.Event} {value : Unit} :
    (tell events).Gives t value t' ↔ { t with events := t.events ++ events } = t' := by
  show ((Except.ok (), _) : Except Error Unit × Transcript) = (.ok value, t') ↔ _
  simp

@[simp] theorem gives_recordQuestion {question : Question} {before : List Question} :
    (recordQuestion question).Gives t before t' ↔
      t.asked = before ∧ { t with asked := t.asked ++ [question] } = t' := by
  show ((Except.ok t.asked, _) : Except Error _ × Transcript) = (.ok before, t') ↔ _
  simp

/-- What goes on only if something is not refused. -/
theorem gives_unless {e : Error} {refused : Bool} {m : Resolve α} {value : α} :
    (if refused then throw e >>= fun _ : Unit => m else m).Gives t value t' ↔
      refused = false ∧ m.Gives t value t' := by
  cases refused with
  | false => simp
  | true => simp

end Resolve

open Resolve

variable {prompter : Prompter} {flags : Flags} {question : Question} {t t' : Transcript}

/-! ## One value -/

theorem given_eq_some_iff {text : Option String} {s : String} :
    given text = some s ↔ text = some s ∧ s ≠ "" := by
  simp [given, Option.filter_eq_some_iff]

theorem given_ne_empty (text : Option String) : given text ≠ some "" := by
  intro h
  exact (given_eq_some_iff.mp h).2 rfl

/-- A question that was answered is on the record. -/
theorem of_gives_ask {answer : String} (h : (ask prompter question).Gives t answer t') :
    (∃ raw, prompter.ask t.asked question = .ok raw ∧ answer = Text.trim raw) ∧
      t'.asked = t.asked ++ [question] ∧ (question.isRequired = true → answer ≠ "") := by
  unfold ask at h
  simp only [gives_bind, gives_unless, gives_recordQuestion, gives_ofExcept, gives_tell,
    gives_pure] at h
  obtain ⟨_, _, ⟨rfl, rfl⟩, raw, _, ⟨hraw, rfl⟩, hanswered, _, _, rfl, rfl, rfl⟩ := h
  refine ⟨⟨raw, hraw, rfl⟩, rfl, ?_⟩
  intro hrequired hblank
  simp [hblank, hrequired] at hanswered

theorem of_gives_resolve {flag : Option String} {value : String}
    (h : (resolve prompter flag question).Gives t value t') :
    (flag = some value ∧ t = t') ∨
      (flag = none ∧ (ask prompter question).Gives t value t') := by
  cases flag with
  | some given => exact .inl (by simpa [resolve] using h)
  | none => exact .inr ⟨rfl, h⟩

/-- Where a question needs an answer, the value is not empty unless a flag says so. -/
theorem ne_empty_of_gives_resolve {flag : Option String} {value : String}
    (h : (resolve prompter flag question).Gives t value t') (hflag : flag ≠ some "")
    (hrequired : question.isRequired = true) : value ≠ "" := by
  rcases of_gives_resolve h with ⟨rfl, -⟩ | ⟨-, hask⟩
  · exact fun hempty => hflag (congrArg some hempty)
  · exact (of_gives_ask hask).2.2 hrequired

theorem of_gives_resolveLimit {flag : Option Int64} {matters : Bool} {otherwise n : Int64}
    (h : (resolveLimit prompter flag question matters otherwise).Gives t n t') :
    (flag = some n ∧ t = t') ∨
      (flag = none ∧ matters = true ∧ ∃ answer, (ask prompter question).Gives t answer t' ∧
        readNumber question answer = .ok n) ∨
      (flag = none ∧ matters = false ∧ otherwise = n ∧ t = t') := by
  cases flag with
  | some given => exact .inl (by simpa [resolveLimit] using h)
  | none =>
      cases matters with
      | false => exact .inr (.inr ⟨rfl, rfl, by simpa [resolveLimit] using h⟩)
      | true =>
          simp only [resolveLimit, if_true, gives_bind, gives_ofExcept] at h
          obtain ⟨answer, _, hask, hnumber, rfl⟩ := h
          exact .inr (.inl ⟨rfl, rfl, answer, hask, hnumber⟩)

theorem of_gives_resolveName {name : Option String}
    (h : (resolveName prompter flags).Gives t name t') :
    (flags.ephemeral = true ∧ name = none ∧ t = t') ∨
      (flags.ephemeral = false ∧ ∃ s, name = some s ∧ checkName s = .ok () ∧
        (resolve prompter (given flags.name) .durableName).Gives t s t') := by
  unfold resolveName at h
  cases hephemeral : flags.ephemeral with
  | true =>
      rw [hephemeral, if_pos rfl, gives_pure] at h
      obtain ⟨rfl, rfl⟩ := h
      exact .inl ⟨rfl, rfl, rfl⟩
  | false =>
      rw [hephemeral, if_neg Bool.false_ne_true] at h
      simp only [gives_bind, gives_ofExcept, gives_pure] at h
      obtain ⟨s, _, hs, _, _, ⟨hlegal, rfl⟩, rfl, rfl⟩ := h
      exact .inr ⟨rfl, s, rfl, hlegal, hs⟩

theorem of_gives_resolveTarget {subject : String}
    (h : (resolveTarget prompter flags).Gives t subject t') :
    (flags.pull = true ∧ subject = "" ∧ t = t') ∨
      (flags.pull = false ∧
        (resolve prompter (given flags.deliverSubject) .deliverySubject).Gives t subject t') := by
  unfold resolveTarget at h
  cases hpull : flags.pull with
  | true =>
      rw [hpull, if_pos rfl, gives_pure] at h
      exact .inl ⟨rfl, h.1.symm, h.2⟩
  | false =>
      rw [hpull, if_neg Bool.false_ne_true] at h
      exact .inr ⟨rfl, h⟩

theorem of_gives_resolveDelivery {delivery : Option String}
    (h : (resolveDelivery prompter flags).Gives t delivery t') :
    ∃ subject, delivery = given (some subject) ∧ (flags.ephemeral = true → subject ≠ "") ∧
      (resolveTarget prompter flags).Gives t subject t' := by
  unfold resolveDelivery at h
  simp only [gives_bind, gives_unless, gives_pure] at h
  obtain ⟨subject, _, hsubject, hpushed, rfl, rfl⟩ := h
  refine ⟨subject, rfl, ?_, hsubject⟩
  intro hephemeral hempty
  simp [hephemeral, hempty] at hpushed

/-! ## A whole configuration -/

/-- A resolution of flags that came to a configuration: the parts of it, in the order in which they
were settled, each with the transcript after it. -/
structure Resolution (prompter : Prompter) (now : Instant) (flags : Flags) (t t' : Transcript) where
  name : Option String
  afterName : Transcript
  name_given : (resolveName prompter flags).Gives t name afterName
  delivery : Option String
  afterDelivery : Transcript
  delivery_given : (resolveDelivery prompter flags).Gives afterName delivery afterDelivery
  startToken : String
  afterStart : Transcript
  start_given :
    (resolve prompter flags.startPolicy .startPolicy).Gives afterDelivery startToken afterStart
  start : DeliverPolicy
  start_read : readStart startToken now = .ok start
  ackToken : String
  afterAck : Transcript
  /-- Whoever pulls acknowledges each message, whatever a flag says. -/
  ack_given : (resolve prompter (if delivery.isNone then some "explicit" else flags.ackPolicy)
    .ackPolicy).Gives afterStart ackToken afterAck
  ack : AckPolicy
  ack_read : readAckPolicy ackToken = .ok ack
  replayToken : String
  afterReplay : Transcript
  replay_given :
    (resolve prompter flags.replayPolicy .replayPolicy).Gives afterAck replayToken afterReplay
  replay : ReplayPolicy
  replay_read : readReplayPolicy replayToken = .ok replay
  sample : Option UInt8
  sample_read : readGiven flags.samplePercent none readSample = .ok sample
  filter : String
  afterFilter : Transcript
  filter_given :
    (resolve prompter flags.filterSubject .filterSubject).Gives afterReplay filter afterFilter
  maxDeliver : Int64
  afterMaxDeliver : Transcript
  maxDeliver_given : (resolveLimit prompter flags.maxDeliver .maxDeliver (ack != .none) 0).Gives
    afterFilter maxDeliver afterMaxDeliver
  maxAckPending : Int64
  maxAckPending_given :
    (resolveLimit prompter flags.maxAckPending .maxAckPending (ack != .none) (-1)).Gives
      afterMaxDeliver maxAckPending t'
  /-- Only what is pushed has a rate. -/
  rate_pushed : (decide (0 < flags.rateLimit.getD 0) && delivery.isNone) = false

/-- The configuration that the parts make. -/
def Resolution.config {now : Instant} (r : Resolution prompter now flags t t') : Config where
  durableName := r.name
  deliverSubject := r.delivery
  filterSubject := given (some r.filter)
  deliverPolicy := r.start
  ackPolicy := r.ack
  ackWait := (Duration.nonzero? flags.ackWait).getD .zero
  replayPolicy := r.replay
  maxDeliver := if r.ack != .none then r.maxDeliver else -1
  maxAckPending := if r.maxAckPending = -1 then 0 else r.maxAckPending
  rateLimit := flags.rateLimit.getD 0
  sampleFrequency := r.sample

/-- Every resolution that comes to a configuration can be taken apart. -/
theorem exists_resolution {now : Instant} {c : Config}
    (h : (resolveFlags prompter now flags).Gives t c t') :
    ∃ r : Resolution prompter now flags t t', r.config = c := by
  unfold resolveFlags at h
  simp only [gives_bind, gives_unless, gives_ofExcept, gives_pure] at h
  obtain ⟨name, afterName, hname, delivery, afterDelivery, hdelivery, startToken, afterStart,
    hstart, start, _, ⟨hstartRead, rfl⟩, ackToken, afterAck, hack, replayToken, afterReplay,
    hreplay, ack, _, ⟨hackRead, rfl⟩, replay, _, ⟨hreplayRead, rfl⟩, sample, _,
    ⟨hsampleRead, rfl⟩, filter, afterFilter, hfilter, maxDeliver, afterMaxDeliver, hmaxDeliver,
    maxAckPending, _, hmaxAckPending, hrate, rfl, rfl⟩ := h
  exact ⟨⟨name, afterName, hname, delivery, afterDelivery, hdelivery, startToken, afterStart,
    hstart, start, hstartRead, ackToken, afterAck, hack, ack, hackRead, replayToken, afterReplay,
    hreplay, replay, hreplayRead, sample, hsampleRead, filter, afterFilter, hfilter, maxDeliver,
    afterMaxDeliver, hmaxDeliver, maxAckPending, hmaxAckPending, hrate⟩, rfl⟩

theorem build_eq_resolveFlags {circumstances : Circumstances} (hfile : flags.configFile = none) :
    build circumstances prompter flags = resolveFlags prompter circumstances.now flags := by
  unfold build
  rw [hfile]

theorem exists_resolution_of_build {circumstances : Circumstances} {c : Config}
    (hfile : flags.configFile = none)
    (h : (build circumstances prompter flags).outcome.1 = .ok c) :
    ∃ r : Resolution prompter circumstances.now flags {}
      (build circumstances prompter flags).outcome.2, r.config = c := by
  have hgives := gives_of_outcome h
  rw [build_eq_resolveFlags hfile] at hgives ⊢
  exact exists_resolution hgives

end JetStream.Consumer

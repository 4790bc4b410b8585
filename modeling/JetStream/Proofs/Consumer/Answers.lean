import JetStream.Proofs.Consumer.Resolution
import JetStream.Proofs.Text.Decimal

/-!
# Answers as flags

An operator who was asked could as well have given the answers as flags.  With every answer in its
flag the same configuration comes out, and nothing is left to ask, whoever is there to answer.

Flags and answers are not read alike, so this is more than the same value twice.  An answer loses
the blanks around it, a blank target is a consumer that is pulled from, a blank number stands for a
default, and the acknowledgement policy of a consumer that is pulled from is not asked for.

## Strategy

What one part of a resolution asks is at most one question: `Asks` says that the answer to it, if
there is one, is added to those on the record.  For each part there is the answer together with what
the part becomes once the answer is a flag.  The answers of a whole resolution are those of its
parts, one after the other, and every question is looked up among them.

What the number in an answer is does not depend on its reader: `IsNumberOf` says it of the digits,
and `readNumber_eq_ok_iff` that it is the number that is read.
-/

namespace JetStream.Consumer

open Resolve

/-- What was answered to questions asked one after the other, without the blanks around it. -/
def Prompter.answers (prompter : Prompter) :
    List Question → List Question → List (Question × String)
  | _, [] => []
  | before, question :: rest =>
      match prompter.ask before question with
      | .ok answer =>
          (question, Text.trim answer) :: prompter.answers (before ++ [question]) rest
      | .error _ => prompter.answers (before ++ [question]) rest

/-! ## Numbers in answers -/

/-- The number of 64 bits in an answer, or in what the question declares as its default where the
answer is blank. -/
inductive IsNumberOf (question : Question) : String → Int64 → Prop
  | blank {default : String} {n : Int64} (hdefault : question.defaultAnswer = some default)
      (hn : Text.IsInteger default.toList n.toInt) : IsNumberOf question "" n
  | text {answer : String} {n : Int64} (hne : answer ≠ "")
      (hn : Text.IsInteger answer.toList n.toInt) : IsNumberOf question answer n

theorem map_signed64?_eq_some_iff {s : String} {n : Int64} :
    (Text.signed64? s).map Int64.ofInt = some n ↔ Text.IsInteger s.toList n.toInt := by
  simp only [Option.map_eq_some_iff, Text.signed64?, Text.signed?_eq_some_iff]
  constructor
  · rintro ⟨m, ⟨hm, hlow, hhigh⟩, rfl⟩
    rwa [Int64.toInt_ofInt_of_le hlow (Int.lt_add_one_of_le hhigh)]
  · intro h
    exact ⟨n.toInt, ⟨h, n.le_toInt, Int.le_of_lt_add_one n.toInt_lt⟩, n.ofInt_toInt⟩

/-- The default of a limit is a number. -/
theorem exists_default {question : Question}
    (hlimit : question = .maxDeliver ∨ question = .maxAckPending) :
    ∃ default, question.defaultAnswer = some default ∧
      (Text.signed64? default).map Int64.ofInt = some (defaultNumber question) := by
  rcases hlimit with rfl | rfl
  · exact ⟨"-1", rfl, by decide⟩
  · exact ⟨"0", rfl, by decide⟩

/-- What is read of an answer about a limit is the number in it. -/
theorem readNumber_eq_ok_iff {question : Question} {answer : String} {n : Int64}
    (hlimit : question = .maxDeliver ∨ question = .maxAckPending) :
    readNumber question answer = .ok n ↔ IsNumberOf question answer n := by
  obtain ⟨default, hdefault, hread⟩ := exists_default hlimit
  unfold readNumber
  by_cases hblank : answer = ""
  · subst hblank
    rw [if_pos (by rfl), Except.ok.injEq]
    constructor
    · rintro rfl
      exact .blank hdefault (map_signed64?_eq_some_iff.mp hread)
    · intro h
      cases h with
      | blank hdefault' hn =>
          cases hdefault.symm.trans hdefault'
          exact Option.some.inj (hread.symm.trans (map_signed64?_eq_some_iff.mpr hn))
      | text hne => exact absurd rfl hne
  · rw [if_neg (by simpa using hblank)]
    have hnumber : IsNumberOf question answer n ↔
        (Text.signed64? answer).map Int64.ofInt = some n := by
      rw [map_signed64?_eq_some_iff]
      constructor
      · intro h
        cases h with
        | blank => exact absurd rfl hblank
        | text _ hn => exact hn
      · exact .text hblank
    rw [hnumber]
    cases Text.signed64? answer with
    | none => exact ⟨nofun, nofun⟩
    | some m => simp

/-! ## Flags filled with answers -/

/-- A flag for a number holds the number in the answer, and is as it was without one. -/
inductive FillsNumber (question : Question) (flag : Option Int64) :
    Option String → Option Int64 → Prop
  | answered {answer : String} {n : Int64} (h : IsNumberOf question answer n) :
      FillsNumber question flag (some answer) (some n)
  | unasked : FillsNumber question flag none flag

/-- The flags have every answer in its place, and are the same in all else. -/
structure Flags.IsFilled (flags : Flags) (answers : List (Question × String)) (filled : Flags) :
    Prop where
  name : filled.name = (answers.lookup .durableName).or flags.name
  ephemeral : filled.ephemeral = flags.ephemeral
  /-- Whoever names no target pulls. -/
  pull : filled.pull = (flags.pull || answers.lookup .deliverySubject == some "")
  deliverSubject :
    filled.deliverSubject = (given (answers.lookup .deliverySubject)).or flags.deliverSubject
  startPolicy : filled.startPolicy = (answers.lookup .startPolicy).or flags.startPolicy
  ackPolicy : filled.ackPolicy = (answers.lookup .ackPolicy).or flags.ackPolicy
  replayPolicy : filled.replayPolicy = (answers.lookup .replayPolicy).or flags.replayPolicy
  filterSubject : filled.filterSubject = (answers.lookup .filterSubject).or flags.filterSubject
  maxDeliver :
    FillsNumber .maxDeliver flags.maxDeliver (answers.lookup .maxDeliver) filled.maxDeliver
  maxAckPending : FillsNumber .maxAckPending flags.maxAckPending (answers.lookup .maxAckPending)
    filled.maxAckPending
  ackWait : filled.ackWait = flags.ackWait
  samplePercent : filled.samplePercent = flags.samplePercent
  rateLimit : filled.rateLimit = flags.rateLimit
  configFile : filled.configFile = flags.configFile

/-! ## Answers on the record -/

theorem Prompter.answers_append (prompter : Prompter) (more : List Question) :
    ∀ asked before, prompter.answers before (asked ++ more) =
      prompter.answers before asked ++ prompter.answers (before ++ asked) more := by
  intro asked
  induction asked with
  | nil =>
      intro before
      simp [Prompter.answers]
  | cons question rest ih =>
      intro before
      simp only [List.cons_append, Prompter.answers]
      cases prompter.ask before question with
      | error e => simp [ih]
      | ok answer => simp [ih]

/-- The entry for the answer to a question that was asked at most once. -/
def answered (question : Question) (answer : Option String) : List (Question × String) :=
  (answer.map fun s => (question, s)).toList

theorem lookup_answered (asked question : Question) (answer : Option String) :
    (answered asked answer).lookup question = if question = asked then answer else none := by
  cases answer with
  | none => simp [answered]
  | some s =>
      by_cases hquestion : question = asked
      · simp [answered, hquestion]
      · simp [answered, hquestion]

/-- From one transcript to the other there is at most one answer more, to this question. -/
def Asks (prompter : Prompter) (question : Question) (t t' : Transcript) (answer : Option String) :
    Prop :=
  prompter.answers [] t'.asked = prompter.answers [] t.asked ++ answered question answer

section Parts

variable {prompter : Prompter} {flags : Flags} {question : Question}
  {t t' : Transcript}

theorem asks_none : Asks prompter question t t none := by
  simp [Asks, answered]

theorem asks_of_gives_ask {answer : String} (h : (ask prompter question).Gives t answer t') :
    Asks prompter question t t' (some answer) := by
  obtain ⟨⟨raw, hraw, rfl⟩, hasked, -⟩ := of_gives_ask h
  unfold Asks
  rw [hasked, Prompter.answers_append]
  simp [Prompter.answers, hraw, answered]

/-! ## One part with its answer as a flag -/

theorem exists_asks_of_gives_resolve {flag : Option String} {value : String}
    (h : (resolve prompter flag question).Gives t value t') :
    ∃ answer, Asks prompter question t t' answer ∧ answer.or flag = some value ∧
      (answer = none ∨ flag = none) ∧ (question.isRequired = true → answer ≠ some "") := by
  rcases of_gives_resolve h with ⟨rfl, rfl⟩ | ⟨rfl, hask⟩
  · exact ⟨none, asks_none, rfl, .inl rfl, fun _ => by simp⟩
  · refine ⟨some value, asks_of_gives_ask hask, rfl, .inr rfl, ?_⟩
    intro hrequired hblank
    exact (of_gives_ask hask).2.2 hrequired (Option.some.inj hblank)

theorem resolve_eq_pure {flag : Option String} {value : String} (h : flag = some value) :
    resolve other flag question = pure value := by
  rw [h]
  rfl

theorem exists_asks_of_gives_resolveName {name : Option String}
    (h : (resolveName prompter flags).Gives t name t') :
    ∃ answer, Asks prompter .durableName t t' answer ∧
      ∀ other filled, filled.ephemeral = flags.ephemeral → filled.name = answer.or flags.name →
        resolveName other filled = pure name := by
  rcases of_gives_resolveName h with ⟨hephemeral, rfl, rfl⟩ | ⟨hnamed, s, rfl, hlegal, hs⟩
  · refine ⟨none, asks_none, ?_⟩
    intro other filled hkept _
    simp [resolveName, hkept, hephemeral]
  · obtain ⟨answer, hasks, hvalue, -, hanswer⟩ := exists_asks_of_gives_resolve hs
    refine ⟨answer, hasks, ?_⟩
    intro other filled hkept hname
    have hgiven : given filled.name = some s := by
      rw [hname]
      cases answer with
      | none => exact hvalue
      | some s' =>
          -- the question needs an answer, so the flag does not look like one left out
          cases hvalue
          exact given_eq_some_iff.mpr ⟨rfl, fun hblank => hanswer rfl (congrArg some hblank)⟩
    simp [resolveName, hkept, hnamed, resolve_eq_pure hgiven, hlegal, ofExcept]

theorem exists_asks_of_gives_resolveTarget {subject : String}
    (h : (resolveTarget prompter flags).Gives t subject t') :
    ∃ answer, Asks prompter .deliverySubject t t' answer ∧
      ∀ other filled, filled.pull = (flags.pull || answer == some "") →
        filled.deliverSubject = (given answer).or flags.deliverSubject →
        resolveTarget other filled = pure subject := by
  rcases of_gives_resolveTarget h with ⟨hpull, rfl, rfl⟩ | ⟨hpush, hs⟩
  · refine ⟨none, asks_none, ?_⟩
    intro other filled hpulled _
    simp [resolveTarget, hpulled, hpull]
  · obtain ⟨answer, hasks, hvalue, -⟩ := exists_asks_of_gives_resolve hs
    refine ⟨answer, hasks, ?_⟩
    intro other filled hpulled hdelivery
    rw [hpush, Bool.false_or] at hpulled
    cases answer with
    | none =>
        have hgiven : given filled.deliverSubject = some subject := by
          rw [hdelivery]
          exact hvalue
        simp [resolveTarget, hpulled, resolve_eq_pure hgiven]
    | some s =>
        cases hvalue
        by_cases hblank : subject = ""
        · -- the blank answer is the flag for pulling
          simp [resolveTarget, hpulled, hblank]
        · have hgiven : given filled.deliverSubject = some subject := by
            rw [hdelivery, given_eq_some_iff.mpr ⟨rfl, hblank⟩]
            exact given_eq_some_iff.mpr ⟨rfl, hblank⟩
          simp [resolveTarget, hpulled, hblank, resolve_eq_pure hgiven]

theorem exists_asks_of_gives_resolveDelivery {delivery : Option String}
    (h : (resolveDelivery prompter flags).Gives t delivery t') :
    ∃ answer, Asks prompter .deliverySubject t t' answer ∧
      ∀ other filled, filled.ephemeral = flags.ephemeral →
        filled.pull = (flags.pull || answer == some "") →
        filled.deliverSubject = (given answer).or flags.deliverSubject →
        resolveDelivery other filled = pure delivery := by
  obtain ⟨subject, rfl, hpushed, hsubject⟩ := of_gives_resolveDelivery h
  obtain ⟨answer, hasks, htarget⟩ := exists_asks_of_gives_resolveTarget hsubject
  refine ⟨answer, hasks, ?_⟩
  intro other filled hkept hpulled hdelivery
  have hallowed : ¬(filled.ephemeral && subject.isEmpty) = true := by
    rw [hkept, Bool.and_eq_true, String.isEmpty_iff]
    rintro ⟨hephemeral, hempty⟩
    exact hpushed hephemeral hempty
  simp only [resolveDelivery, htarget other filled hpulled hdelivery, pure_bind]
  rw [if_neg hallowed]

theorem exists_asks_of_gives_resolveLimit {flag : Option Int64} {matters : Bool}
    {otherwise n : Int64} (hlimit : question = .maxDeliver ∨ question = .maxAckPending)
    (h : (resolveLimit prompter flag question matters otherwise).Gives t n t') :
    ∃ answer, Asks prompter question t t' answer ∧
      (∃ filled, FillsNumber question flag answer filled) ∧
      ∀ other filled, FillsNumber question flag answer filled →
        resolveLimit other filled question matters otherwise = pure n := by
  rcases of_gives_resolveLimit h with ⟨rfl, rfl⟩ | ⟨rfl, hmatters, answer, hask, hnumber⟩ |
    ⟨rfl, hmatters, rfl, rfl⟩
  · refine ⟨none, asks_none, ⟨_, .unasked⟩, ?_⟩
    rintro other filled ⟨⟩
    rfl
  · have hread := (readNumber_eq_ok_iff hlimit).mp hnumber
    refine ⟨some answer, asks_of_gives_ask hask, ⟨_, .answered hread⟩, ?_⟩
    intro other filled hfilled
    cases hfilled with
    | answered hn =>
        -- the same answer has no other number in it
        rw [← readNumber_eq_ok_iff hlimit, hnumber] at hn
        cases hn
        rfl
  · refine ⟨none, asks_none, ⟨_, .unasked⟩, ?_⟩
    rintro other filled ⟨⟩
    simp [resolveLimit, hmatters]

end Parts

/-! ## The whole resolution -/

section Whole

variable {prompter other : Prompter} {now : Instant} {flags filled : Flags} {t t' : Transcript}

/-- Of these flags nobody is asked, and every part is what it was. -/
structure Resolution.Repeats (r : Resolution prompter now flags t t') (other : Prompter)
    (filled : Flags) : Prop where
  name : resolveName other filled = pure r.name
  delivery : resolveDelivery other filled = pure r.delivery
  start : resolve other filled.startPolicy .startPolicy = pure r.startToken
  ack : resolve other (if r.delivery.isNone then some "explicit" else filled.ackPolicy)
    .ackPolicy = pure r.ackToken
  replay : resolve other filled.replayPolicy .replayPolicy = pure r.replayToken
  sample : filled.samplePercent = flags.samplePercent
  filter : resolve other filled.filterSubject .filterSubject = pure r.filter
  maxDeliver :
    resolveLimit other filled.maxDeliver .maxDeliver (r.ack != .none) 0 = pure r.maxDeliver
  maxAckPending : resolveLimit other filled.maxAckPending .maxAckPending (r.ack != .none) (-1) =
    pure r.maxAckPending
  rateLimit : filled.rateLimit = flags.rateLimit
  ackWait : filled.ackWait = flags.ackWait

theorem resolveFlags_of_repeats {r : Resolution prompter now flags t t'}
    (h : r.Repeats other filled) : resolveFlags other now filled = pure r.config := by
  unfold resolveFlags
  simp only [h.name, h.delivery, h.start, r.start_read, h.ack, h.replay, r.ack_read, r.replay_read,
    h.sample, r.sample_read, h.filter, h.maxDeliver, h.maxAckPending, h.rateLimit, r.rate_pushed,
    h.ackWait, ofExcept_ok, pure_bind]
  rfl

/-- Every answer is found under its question when each part asked its question or did not. -/
theorem lookup_answered_parts {answers : List (Question × String)}
    {name target start ack replay filter maxDeliver maxAckPending : Option String}
    (h : answers = answered .durableName name ++ answered .deliverySubject target ++
      answered .startPolicy start ++ answered .ackPolicy ack ++ answered .replayPolicy replay ++
      answered .filterSubject filter ++ answered .maxDeliver maxDeliver ++
      answered .maxAckPending maxAckPending) :
    answers.lookup .durableName = name ∧ answers.lookup .deliverySubject = target ∧
      answers.lookup .startPolicy = start ∧ answers.lookup .ackPolicy = ack ∧
      answers.lookup .replayPolicy = replay ∧ answers.lookup .filterSubject = filter ∧
      answers.lookup .maxDeliver = maxDeliver ∧
      answers.lookup .maxAckPending = maxAckPending := by
  simp [h, List.lookup_append, lookup_answered]

/-- The answers of a whole resolution can be filled in, and the flags then say all that was
answered. -/
theorem repeats_of_isFilled (r : Resolution prompter now flags {} t') :
    (∃ filled, flags.IsFilled (prompter.answers [] t'.asked) filled) ∧
      ∀ filled, flags.IsFilled (prompter.answers [] t'.asked) filled →
        ∀ other, r.Repeats other filled := by
  obtain ⟨name, hnameAsks, hname⟩ := exists_asks_of_gives_resolveName r.name_given
  obtain ⟨target, htargetAsks, hdelivery⟩ := exists_asks_of_gives_resolveDelivery r.delivery_given
  obtain ⟨start, hstartAsks, hstart, -⟩ := exists_asks_of_gives_resolve r.start_given
  obtain ⟨ack, hackAsks, hack, hackOpen, -⟩ := exists_asks_of_gives_resolve r.ack_given
  obtain ⟨replay, hreplayAsks, hreplay, -⟩ := exists_asks_of_gives_resolve r.replay_given
  obtain ⟨filter, hfilterAsks, hfilter, -⟩ := exists_asks_of_gives_resolve r.filter_given
  obtain ⟨maxDeliver, hdeliverAsks, ⟨deliveries, hdeliveries⟩, hmaxDeliver⟩ :=
    exists_asks_of_gives_resolveLimit (.inl rfl) r.maxDeliver_given
  obtain ⟨maxAckPending, hpendingAsks, ⟨pending, hpending⟩, hmaxAckPending⟩ :=
    exists_asks_of_gives_resolveLimit (.inr rfl) r.maxAckPending_given
  have hanswers : prompter.answers [] t'.asked =
      answered .durableName name ++ answered .deliverySubject target ++
      answered .startPolicy start ++ answered .ackPolicy ack ++ answered .replayPolicy replay ++
      answered .filterSubject filter ++ answered .maxDeliver maxDeliver ++
      answered .maxAckPending maxAckPending := by
    unfold Asks at hnameAsks
    rw [hpendingAsks, hdeliverAsks, hfilterAsks, hreplayAsks, hackAsks, hstartAsks, htargetAsks,
      hnameAsks]
    rfl
  obtain ⟨rfl, rfl, rfl, rfl, rfl, rfl, rfl, rfl⟩ := lookup_answered_parts hanswers
  -- In a consumer that is pulled from, the policy was not asked for, and its flag does not count.
  have hackFilled :
      (if r.delivery.isNone then some "explicit"
        else ((prompter.answers [] t'.asked).lookup .ackPolicy).or flags.ackPolicy) =
      some r.ackToken := by
    by_cases hpull : r.delivery.isNone = true
    · rw [if_pos hpull] at hack hackOpen ⊢
      rcases hackOpen with hunasked | hflag
      · rwa [hunasked, Option.none_or] at hack
      · cases hflag
    · rw [if_neg hpull] at hack ⊢
      exact hack
  constructor
  · exact ⟨
      { name := _, ephemeral := _, pull := _, deliverSubject := _, startPolicy := _
        ackPolicy := _, replayPolicy := _, filterSubject := _, maxDeliver := deliveries
        maxAckPending := pending, ackWait := _, samplePercent := _, rateLimit := _
        configFile := _ },
      { name := rfl, ephemeral := rfl, pull := rfl, deliverSubject := rfl, startPolicy := rfl
        ackPolicy := rfl, replayPolicy := rfl, filterSubject := rfl, maxDeliver := hdeliveries
        maxAckPending := hpending, ackWait := rfl, samplePercent := rfl, rateLimit := rfl
        configFile := rfl }⟩
  · intro filled hfilled other
    exact
      { name := hname other _ hfilled.ephemeral hfilled.name
        delivery := hdelivery other _ hfilled.ephemeral hfilled.pull hfilled.deliverSubject
        start := resolve_eq_pure (hfilled.startPolicy.trans hstart)
        ack := by
          rw [hfilled.ackPolicy]
          exact resolve_eq_pure hackFilled
        replay := resolve_eq_pure (hfilled.replayPolicy.trans hreplay)
        sample := hfilled.samplePercent
        filter := resolve_eq_pure (hfilled.filterSubject.trans hfilter)
        maxDeliver := hmaxDeliver other _ hfilled.maxDeliver
        maxAckPending := hmaxAckPending other _ hfilled.maxAckPending
        rateLimit := hfilled.rateLimit
        ackWait := hfilled.ackWait }

end Whole

/-- Every answer can be given as a flag.  Then the same configuration comes out whoever is there to
answer, nothing is asked and nothing is told. -/
theorem build_filled {circumstances : Circumstances} {prompter : Prompter} {flags : Flags}
    {c : Config} (hfile : flags.configFile = none)
    (h : (build circumstances prompter flags).outcome.1 = .ok c) :
    let answers := prompter.answers [] (build circumstances prompter flags).outcome.2.asked
    (∃ filled, flags.IsFilled answers filled) ∧
      ∀ filled, flags.IsFilled answers filled →
        ∀ other, (build circumstances other filled).outcome = (.ok c, {}) := by
  intro answers
  obtain ⟨r, rfl⟩ := exists_resolution_of_build hfile h
  obtain ⟨hexists, hrepeats⟩ := repeats_of_isFilled r
  refine ⟨hexists, ?_⟩
  intro filled hfilled other
  have hopen : filled.configFile = none := hfilled.configFile.trans hfile
  rw [build_eq_resolveFlags hopen, resolveFlags_of_repeats (hrepeats filled hfilled other)]
  rfl

/-- An operator who gave a blank target, one number, a blank for the other and blanks around
everything else is not needed a second time. -/
theorem build_filled_blank :
    let prompter : Prompter :=
      { ask := fun _ question => .ok <|
          match question with
          | .durableName => " jobs "
          | .startPolicy => "42 "
          | .replayPolicy => " Original"
          | .maxDeliver => " +012 "
          | _ => " "
        choose := Prompter.refuseChoice }
    let filled : Flags :=
      { name := some "jobs"
        pull := true
        startPolicy := some "42"
        replayPolicy := some "Original"
        filterSubject := some ""
        maxDeliver := some 12
        maxAckPending := some 0 }
    let c : Config :=
      { durableName := some "jobs"
        deliverPolicy := .byStartSequence 42
        replayPolicy := .original
        maxDeliver := 12 }
    (build { now := default } prompter {}).outcome.1 = .ok c ∧
      ({} : Flags).IsFilled
        (prompter.answers [] (build { now := default } prompter {}).outcome.2.asked) filled ∧
      (build { now := default } .nonInteractive filled).outcome = (.ok c, {}) := by
  intro prompter filled c
  have hbuilt : (build { now := default } prompter {}).outcome.1 = .ok c := rfl
  have hfilled : ({} : Flags).IsFilled
      (prompter.answers [] (build { now := default } prompter {}).outcome.2.asked) filled := by
    have hdigits : ∀ c ∈ ['0', '1', '2'], c.isDigit = true := List.all_eq_true.mp rfl
    have hzero : ∀ c ∈ ['0'], c.isDigit = true := List.all_eq_true.mp rfl
    have hdeliver : IsNumberOf .maxDeliver "+012" 12 :=
      .text (by decide) (Text.IsInteger.plus (by decide) hdigits)
    have hpending : IsNumberOf .maxAckPending "" 0 :=
      .blank rfl (Text.IsInteger.unsigned (by decide) hzero)
    exact
      { name := rfl, ephemeral := rfl, pull := rfl, deliverSubject := rfl, startPolicy := rfl
        ackPolicy := rfl, replayPolicy := rfl, filterSubject := rfl
        maxDeliver := .answered hdeliver, maxAckPending := .answered hpending, ackWait := rfl
        samplePercent := rfl, rateLimit := rfl, configFile := rfl }
  exact ⟨hbuilt, hfilled, (build_filled rfl hbuilt).2 filled hfilled .nonInteractive⟩

end JetStream.Consumer

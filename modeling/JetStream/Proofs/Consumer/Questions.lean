import JetStream.Proofs.Consumer.Answers

/-!
# Which questions are asked

A resolution asks only for what is still open: a flag may have said it, or it may not matter any
more because of the mode or of the acknowledgement policy, which are themselves matters of flags and
of earlier answers.  `interview_of_build` says which questions that are, of every resolution, also
of those that fail, and that nothing is asked of a prompter who gave no usable answer.

## Strategy

* `Flags.leavesOpen` says from the flags and the answers whether a question is open.  It reads only
  answers to questions that come earlier (`Question.reads`), so later answers do not change it
  (`leavesOpen_answered`).
* Each part of a resolution is about one question: `Resolve.Poses` says that it asks this question
  or none, and fails where the question gets no usable answer.
* `Course` is the invariant: of the questions dealt with, those asked are the open ones.
  `Course.pose` takes it through one part, and `interviews_bind` through a resolution, whether that
  goes on or ends there.
-/

namespace JetStream.Consumer

open Resolve

/-! ## Open questions -/

/-- A flag says already what the question is about. -/
def Flags.supplies (flags : Flags) : Question → Bool
  | .durableName => (given flags.name).isSome
  | .deliverySubject => (given flags.deliverSubject).isSome
  | .startPolicy => flags.startPolicy.isSome
  | .ackPolicy => flags.ackPolicy.isSome
  | .replayPolicy => flags.replayPolicy.isSome
  | .filterSubject => flags.filterSubject.isSome
  | .maxDeliver => flags.maxDeliver.isSome
  | .maxAckPending => flags.maxAckPending.isSome

/-- Messages are to be pulled: a flag says so, or there is no target, neither by a flag nor by an
answer. -/
def Flags.pulls (flags : Flags) (answers : List (Question × String)) : Bool :=
  flags.pull ||
    ((given flags.deliverSubject).isNone && answers.lookup .deliverySubject == some "")

/-- The acknowledgement policy that flags and answers settle, if they do. -/
def Flags.settledAck? (flags : Flags) (answers : List (Question × String)) : Option AckPolicy :=
  if flags.pulls answers then some .explicit
  else (flags.ackPolicy.or (answers.lookup .ackPolicy)).bind AckPolicy.ofToken?

/-- What the question is about does not matter. -/
def Flags.rulesOut (flags : Flags) (answers : List (Question × String)) : Question → Bool
  | .durableName => flags.ephemeral
  | .deliverySubject => flags.pull
  | .ackPolicy => flags.pulls answers
  | .maxDeliver | .maxAckPending => flags.settledAck? answers == some .none
  | .startPolicy | .replayPolicy | .filterSubject => false

/-- After these answers the question is open. -/
def Flags.leavesOpen (flags : Flags) (answers : List (Question × String)) (question : Question) :
    Bool :=
  !flags.supplies question && !flags.rulesOut answers question

/-- The questions whose answers decide whether a question is open. -/
def Question.reads : Question → List Question
  | .ackPolicy => [.deliverySubject]
  | .maxDeliver | .maxAckPending => [.deliverySubject, .ackPolicy]
  | _ => []

section Answers

variable {flags : Flags} {answers answers' : List (Question × String)} {question : Question}

theorem pulls_congr (h : answers'.lookup .deliverySubject = answers.lookup .deliverySubject) :
    flags.pulls answers' = flags.pulls answers := by
  unfold Flags.pulls
  rw [h]

theorem settledAck?_congr
    (hdelivery : answers'.lookup .deliverySubject = answers.lookup .deliverySubject)
    (hack : answers'.lookup .ackPolicy = answers.lookup .ackPolicy) :
    flags.settledAck? answers' = flags.settledAck? answers := by
  unfold Flags.settledAck?
  rw [pulls_congr hdelivery, hack]

theorem leavesOpen_congr
    (h : ∀ earlier ∈ question.reads, answers'.lookup earlier = answers.lookup earlier) :
    flags.leavesOpen answers' question = flags.leavesOpen answers question := by
  have hrules : flags.rulesOut answers' question = flags.rulesOut answers question := by
    cases question with
    | ackPolicy => exact pulls_congr (h _ (by decide))
    | maxDeliver | maxAckPending =>
        exact congrArg (· == some .none)
          (settledAck?_congr (h _ (by decide)) (h _ (by decide)))
    | _ => rfl
  unfold Flags.leavesOpen
  rw [hrules]

theorem lookup_append_answered {asked : Question} (answer : Option String)
    (hquestion : question ≠ asked) :
    (answers ++ answered asked answer).lookup question = answers.lookup question := by
  rw [List.lookup_append, lookup_answered, if_neg hquestion, Option.or_none]

/-- No question reads the answers to itself or to questions after it. -/
theorem notMem_reads : Question.all.Pairwise fun earlier later => later ∉ earlier.reads := by
  decide

theorem self_notMem_reads (question : Question) : question ∉ question.reads := by
  cases question with
  | _ => decide

theorem leavesOpen_answered {asked : Question} (answer : Option String)
    (hreads : asked ∉ question.reads) :
    flags.leavesOpen (answers ++ answered asked answer) question =
      flags.leavesOpen answers question := by
  refine leavesOpen_congr fun earlier hearlier => lookup_append_answered answer ?_
  intro heq
  exact hreads (heq ▸ hearlier)

end Answers

/-! ## Answers that cannot be used -/

/-- A question, asked after others, gets no usable answer: the prompter fails, or answers blank
where something is needed. -/
inductive Prompter.Fails (prompter : Prompter) (before : List Question) (question : Question) :
    Error → Prop
  | error {e : Error} (hanswer : prompter.ask before question = .error e) :
      prompter.Fails before question e
  | blank {answer : String} (hanswer : prompter.ask before question = .ok answer)
      (hrequired : question.isRequired = true) (hblank : Text.trim answer = "") :
      prompter.Fails before question (.input (question.message ++ " is required"))

/-- The answer that goes on the record for a question asked after others, if there is one. -/
theorem exists_answers_concat (prompter : Prompter) (asked : List Question) (question : Question) :
    ∃ answer, prompter.answers [] (asked ++ [question]) =
      prompter.answers [] asked ++ answered question answer := by
  rw [Prompter.answers_append, List.nil_append]
  cases hanswer : prompter.ask asked question with
  | error e => exact ⟨none, by simp [Prompter.answers, hanswer, answered]⟩
  | ok answer => exact ⟨some (Text.trim answer), by simp [Prompter.answers, hanswer, answered]⟩

/-! ## Parts of a resolution -/

namespace Resolve

variable {α β : Type}

/-- The computation asks nothing. -/
def AsksNothing (m : Resolve α) : Prop :=
  ∀ t, (m.runFrom t).2.asked = t.asked

theorem asksNothing_pure (a : α) : (pure a : Resolve α).AsksNothing :=
  fun _ => rfl

theorem asksNothing_throw (e : Error) : (throw e : Resolve α).AsksNothing :=
  fun _ => rfl

theorem asksNothing_ofExcept (result : Except Error α) :
    (ofExcept result : Resolve α).AsksNothing := by
  cases result with
  | error e => exact asksNothing_throw e
  | ok a => exact asksNothing_pure a

theorem AsksNothing.bind {m : Resolve α} {f : α → Resolve β} (hm : m.AsksNothing)
    (hf : ∀ a, (f a).AsksNothing) : (m >>= f).AsksNothing := by
  intro t
  have hfirst := hm t
  rw [runFrom_bind]
  revert hfirst
  rcases m.runFrom t with ⟨_ | a, between⟩
  · exact id
  · exact fun hfirst => (hf a between).trans hfirst

/-- The computation asks the question if it is open, and nothing else.  Where the question gets no
usable answer, the computation fails. -/
structure Poses (m : Resolve α) (prompter : Prompter) (question : Question) (isOpen : Bool) :
    Prop where
  asked : ∀ t, (m.runFrom t).2.asked = t.asked ++ if isOpen then [question] else []
  fails : isOpen = true → ∀ t e, prompter.Fails t.asked question e → (m.runFrom t).1 = .error e

theorem AsksNothing.poses {m : Resolve α} (h : m.AsksNothing) (prompter : Prompter)
    (question : Question) : m.Poses prompter question false := by
  constructor
  · intro t
    simpa using h t
  · intro hopen
    cases hopen

theorem Poses.bind {m : Resolve α} {f : α → Resolve β} {prompter : Prompter} {question : Question}
    {isOpen : Bool} (hm : m.Poses prompter question isOpen) (hf : ∀ a, (f a).AsksNothing) :
    (m >>= f).Poses prompter question isOpen := by
  constructor
  · intro t
    have hfirst := hm.asked t
    rw [runFrom_bind]
    revert hfirst
    rcases m.runFrom t with ⟨_ | a, between⟩
    · exact id
    · exact fun hfirst => (hf a between).trans hfirst
  · intro hopen t e hfails
    rw [runFrom_bind]
    have hfirst := hm.fails hopen t e hfails
    revert hfirst
    rcases m.runFrom t with ⟨_ | a, between⟩
    · intro hfirst
      cases hfirst
      rfl
    · intro hfirst
      cases hfirst

end Resolve

section Parts

variable {prompter : Prompter} {flags : Flags} {question : Question}

theorem runFrom_ask (t : Transcript) :
    (ask prompter question).runFrom t =
      match prompter.ask t.asked question with
      | .error e => (.error e, { t with asked := t.asked ++ [question] })
      | .ok answer =>
          if (Text.trim answer).isEmpty && question.isRequired then
            (.error (.input (question.message ++ " is required")),
              { t with asked := t.asked ++ [question] })
          else
            (.ok (Text.trim answer),
              { asked := t.asked ++ [question]
                events := t.events ++ [.debug "resolved by prompt"
                  [("question", question.name), ("answer", Text.trim answer)]] }) := by
  have hrecord : (recordQuestion question).runFrom t =
      (.ok t.asked, { t with asked := t.asked ++ [question] }) := rfl
  unfold ask
  rw [runFrom_bind, hrecord]
  dsimp only
  cases prompter.ask t.asked question with
  | error e => rfl
  | ok answer =>
      dsimp only
      rw [runFrom_bind]
      show Resolve.runFrom (if _ then _ else _) _ = _
      split
      · rfl
      · rfl

theorem poses_ask : (ask prompter question).Poses prompter question true := by
  constructor
  · intro t
    rw [runFrom_ask, if_pos rfl]
    cases prompter.ask t.asked question with
    | error e => rfl
    | ok answer =>
        dsimp only
        split
        · rfl
        · rfl
  · intro _ t e hfails
    rw [runFrom_ask]
    cases hfails with
    | error hanswer => rw [hanswer]
    | blank hanswer hrequired hblank =>
        rw [hanswer]
        simp [hrequired, hblank]

theorem poses_resolve (flag : Option String) :
    (resolve prompter flag question).Poses prompter question flag.isNone := by
  cases flag with
  | none => exact poses_ask
  | some value => exact (asksNothing_pure value).poses prompter question

theorem poses_resolveLimit (flag : Option Int64) (matters : Bool) (otherwise : Int64) :
    (resolveLimit prompter flag question matters otherwise).Poses prompter question
      (flag.isNone && matters) := by
  cases flag with
  | some n => exact (asksNothing_pure n).poses prompter question
  | none =>
      cases matters with
      | false => exact (asksNothing_pure otherwise).poses prompter question
      | true => exact poses_ask.bind fun answer => asksNothing_ofExcept _

theorem poses_resolveName :
    (resolveName prompter flags).Poses prompter .durableName
      (!flags.ephemeral && (given flags.name).isNone) := by
  unfold resolveName
  cases flags.ephemeral with
  | true => exact (asksNothing_pure none).poses prompter .durableName
  | false =>
      refine (poses_resolve _).bind fun name => ?_
      exact (asksNothing_ofExcept _).bind fun _ => asksNothing_pure _

theorem poses_resolveDelivery :
    (resolveDelivery prompter flags).Poses prompter .deliverySubject
      (!flags.pull && (given flags.deliverSubject).isNone) := by
  have htarget : (resolveTarget prompter flags).Poses prompter .deliverySubject
      (!flags.pull && (given flags.deliverSubject).isNone) := by
    unfold resolveTarget
    cases flags.pull with
    | true => exact (asksNothing_pure "").poses prompter .deliverySubject
    | false => exact poses_resolve _
  refine htarget.bind fun delivery => ?_
  split
  · exact (asksNothing_throw _).bind fun _ => asksNothing_pure _
  · exact asksNothing_pure _

end Parts

/-! ## The course of a resolution -/

/-- A resolution has dealt with some of the questions, the first ones: those of them that were asked
are the open ones, in order, and it has gone on after each usable answer only. -/
structure Course {α : Type} (prompter : Prompter) (flags : Flags) (dealt : List Question)
    (result : Except Error α) (asked : List Question) : Prop where
  isPrefix : dealt <+: Question.all
  asked_eq : asked = dealt.filter (flags.leavesOpen (prompter.answers [] asked))
  stops : ∀ before question after e, asked = before ++ question :: after →
    prompter.Fails before question e → after = [] ∧ result = .error e

section Course

variable {α β : Type} {prompter : Prompter} {flags : Flags} {dealt asked : List Question}
  {question : Question}

theorem course_nil (a : α) : Course prompter flags [] (.ok a) [] := by
  constructor
  · exact List.nil_prefix
  · rfl
  · intro before question after e hasked
    simp at hasked

/-- What goes on had a usable answer to each question so far, so it may end in any way. -/
theorem Course.ended {a : α} (h : Course prompter flags dealt (.ok a) asked)
    (result : Except Error β) : Course prompter flags dealt result asked := by
  refine ⟨h.isPrefix, h.asked_eq, ?_⟩
  intro before question after e hasked hfails
  have hresult := (h.stops before question after e hasked hfails).2
  cases hresult

/-- No earlier question reads the answer to the next one, nor does that one itself. -/
theorem leavesOpen_of_isPrefix {other : Question} (hnext : dealt ++ [question] <+: Question.all)
    (hother : other ∈ dealt ++ [question]) (answers : List (Question × String))
    (answer : Option String) :
    flags.leavesOpen (answers ++ answered question answer) other =
      flags.leavesOpen answers other := by
  refine leavesOpen_answered answer ?_
  obtain ⟨rest, hall⟩ := hnext
  have hpairwise := notMem_reads
  rw [← hall, List.append_assoc, List.pairwise_append] at hpairwise
  rcases List.mem_append.mp hother with hearlier | hself
  · exact hpairwise.2.2 other hearlier question (by simp)
  · rw [List.mem_singleton.mp hself]
    exact self_notMem_reads question

/-- The course of a resolution through the part that is about the next question. -/
theorem Course.pose {a : α} {m : Resolve β} {t : Transcript} {isOpen : Bool}
    (h : Course prompter flags dealt (.ok a) t.asked)
    (hnext : dealt ++ [question] <+: Question.all) (hposes : m.Poses prompter question isOpen)
    (hopen : isOpen = flags.leavesOpen (prompter.answers [] t.asked) question) :
    Course prompter flags (dealt ++ [question]) (m.runFrom t).1 (m.runFrom t).2.asked := by
  have hasked := hposes.asked t
  cases isOpen with
  | false =>
      rw [if_neg Bool.false_ne_true, List.append_nil] at hasked
      rw [hasked]
      refine { h.ended _ with isPrefix := hnext, asked_eq := ?_ }
      rw [List.filter_append, ← h.asked_eq]
      simp [← hopen]
  | true =>
      rw [if_pos rfl] at hasked
      rw [hasked]
      refine ⟨hnext, ?_, ?_⟩
      · obtain ⟨answer, hanswers⟩ := exists_answers_concat prompter t.asked question
        have hsame : (dealt ++ [question]).filter
              (flags.leavesOpen (prompter.answers [] (t.asked ++ [question]))) =
            (dealt ++ [question]).filter (flags.leavesOpen (prompter.answers [] t.asked)) := by
          refine List.filter_congr fun other hother => ?_
          rw [hanswers]
          exact leavesOpen_of_isPrefix hnext hother _ answer
        rw [hsame, List.filter_append, ← h.asked_eq]
        simp [← hopen]
      · intro before other after e hsplit hfails
        rcases List.eq_nil_or_concat after with rfl | ⟨between, last, rfl⟩
        · obtain ⟨rfl, hlast⟩ := List.append_inj' hsplit rfl
          cases hlast
          exact ⟨rfl, hposes.fails rfl t e hfails⟩
        · -- an earlier question would have ended the resolution before
          rw [List.concat_eq_append, ← List.cons_append, ← List.append_assoc] at hsplit
          have hbefore := (List.append_inj' hsplit rfl).1
          have hresult := (h.stops before other between e hbefore hfails).2
          cases hresult

end Course

/-! ## Whole resolutions -/

/-- What was asked for a configuration, whether or not there was one in the end. -/
structure Interview (prompter : Prompter) (flags : Flags) (result : Except Error Config)
    (asked : List Question) : Prop where
  inOrder : asked.Sublist Question.all
  once : asked.Nodup
  isOpen : ∀ question ∈ asked, flags.leavesOpen (prompter.answers [] asked) question = true
  /-- The mode and the policy that decide about the questions are those of the configuration, and
  every question that is open was asked. -/
  complete : ∀ c, result = .ok c →
    flags.pulls (prompter.answers [] asked) = c.isPull ∧
      flags.settledAck? (prompter.answers [] asked) = some c.ackPolicy ∧
      ∀ question, flags.leavesOpen (prompter.answers [] asked) question = true → question ∈ asked
  stops : ∀ before question after e, asked = before ++ question :: after →
    prompter.Fails before question e → after = [] ∧ result = .error e

section Whole

variable {β : Type} {prompter : Prompter} {flags : Flags} {dealt : List Question}
  {question : Question} {t t' : Transcript}

/-- The interview that is held from a transcript on. -/
def Interviews (prompter : Prompter) (flags : Flags) (m : Resolve Config) (t : Transcript) : Prop :=
  Interview prompter flags (m.runFrom t).1 (m.runFrom t).2.asked

theorem Course.inOrder {result : Except Error β} {asked : List Question}
    (h : Course prompter flags dealt result asked) : asked.Sublist Question.all := by
  rw [h.asked_eq]
  exact List.filter_sublist.trans h.isPrefix.sublist

theorem Course.notMem {result : Except Error β} {asked : List Question}
    (h : Course prompter flags dealt result asked) (hquestion : question ∉ dealt) :
    question ∉ asked := by
  rw [h.asked_eq]
  exact fun hmem => hquestion (List.mem_filter.mp hmem).1

theorem Course.isOpen {result : Except Error β} {asked : List Question}
    (h : Course prompter flags dealt result asked) :
    ∀ question ∈ asked, flags.leavesOpen (prompter.answers [] asked) question = true := by
  intro question hquestion
  rw [h.asked_eq] at hquestion
  exact (List.mem_filter.mp hquestion).2

theorem Course.interview_error {e : Error} {asked : List Question}
    (h : Course prompter flags dealt (.error e : Except Error β) asked) :
    Interview prompter flags (.error e) asked where
  inOrder := h.inOrder
  once := h.inOrder.nodup (by decide)
  isOpen := h.isOpen
  complete := by
    intro c hc
    cases hc
  stops := by
    intro before question after e' hasked hfails
    obtain ⟨hafter, hresult⟩ := h.stops before question after e' hasked hfails
    cases hresult
    exact ⟨hafter, rfl⟩

theorem Course.interview_ok {c : Config} {asked : List Question}
    (h : Course prompter flags Question.all (.ok c) asked)
    (hmode : flags.pulls (prompter.answers [] asked) = c.isPull)
    (hack : flags.settledAck? (prompter.answers [] asked) = some c.ackPolicy) :
    Interview prompter flags (.ok c) asked where
  inOrder := h.inOrder
  once := h.inOrder.nodup (by decide)
  isOpen := h.isOpen
  complete := by
    intro other hother
    cases hother
    refine ⟨hmode, hack, fun question hopen => ?_⟩
    have hall : question ∈ Question.all := by
      cases question with
      | _ => decide
    rw [h.asked_eq]
    exact List.mem_filter.mpr ⟨hall, hopen⟩
  stops := h.stops

/-- A part that asks nothing and may fail. -/
theorem interviews_ofExcept_bind {a : β} {γ : Type} {result : Except Error γ}
    {f : γ → Resolve Config} (h : Course prompter flags dealt (.ok a) t.asked)
    (hgo : ∀ value, result = .ok value → Interviews prompter flags (f value) t) :
    Interviews prompter flags (ofExcept result >>= f) t := by
  cases result with
  | error e =>
      show Interview prompter flags (.error e) t.asked
      exact (h.ended (.error e : Except Error Config)).interview_error
  | ok value => exact hgo value rfl

theorem lookup_of_poses {m : Resolve β} {isOpen : Bool} (h : m.Poses prompter question isOpen)
    {other : Question} (hother : other ≠ question) :
    (prompter.answers [] (m.runFrom t).2.asked).lookup other =
      (prompter.answers [] t.asked).lookup other := by
  rw [h.asked t]
  cases isOpen with
  | false => simp
  | true =>
      obtain ⟨answer, hanswers⟩ := exists_answers_concat prompter t.asked question
      rw [if_pos rfl, hanswers, lookup_append_answered answer hother]

/-- The part about the next question: what comes after it finds the answers to other questions as
they were. -/
theorem interviews_bind {γ : Type} {a : γ} {m : Resolve β} {f : β → Resolve Config} {isOpen : Bool}
    (h : Course prompter flags dealt (.ok a) t.asked) (hposes : m.Poses prompter question isOpen)
    (hnext : dealt ++ [question] <+: Question.all)
    (hopen : isOpen = flags.leavesOpen (prompter.answers [] t.asked) question)
    (hgo : ∀ value between, m.Gives t value between →
      Course prompter flags (dealt ++ [question]) (.ok value) between.asked →
      (∀ other, other ≠ question → (prompter.answers [] between.asked).lookup other =
        (prompter.answers [] t.asked).lookup other) →
      Interviews prompter flags (f value) between) :
    Interviews prompter flags (m >>= f) t := by
  have hcourse := h.pose hnext hposes hopen
  have hlookup : ∀ other, other ≠ question →
      (prompter.answers [] (m.runFrom t).2.asked).lookup other =
        (prompter.answers [] t.asked).lookup other := fun _ hother => lookup_of_poses hposes hother
  unfold Interviews
  rw [runFrom_bind]
  revert hcourse hlookup
  cases hrun : m.runFrom t with
  | mk result between =>
      intro hcourse hlookup
      cases result with
      | error e => exact hcourse.interview_error
      | ok value => exact hgo value between hrun hcourse hlookup

/-! ### The mode and the policy -/

theorem lookup_eq_none_of_notMem {asked : List Question} (h : question ∉ asked) :
    (prompter.answers [] asked).lookup question = none := by
  have general : ∀ asked before, question ∉ asked →
      (prompter.answers before asked).lookup question = none := by
    intro asked
    induction asked with
    | nil => exact fun _ _ => rfl
    | cons first rest ih =>
        intro before hnotMem
        rw [List.mem_cons, not_or] at hnotMem
        obtain ⟨hfirst, hrest⟩ := hnotMem
        unfold Prompter.answers
        split
        · rw [List.lookup_cons, beq_eq_false_iff_ne.mpr hfirst]
          exact ih _ hrest
        · exact ih _ hrest
  exact general asked [] h

theorem lookup_of_gives_ask {answer : String} (hnotMem : question ∉ t.asked)
    (h : (ask prompter question).Gives t answer t') :
    (prompter.answers [] t'.asked).lookup question = some answer := by
  have hanswers : prompter.answers [] t'.asked =
      prompter.answers [] t.asked ++ answered question (some answer) := asks_of_gives_ask h
  rw [hanswers, List.lookup_append, lookup_eq_none_of_notMem hnotMem, lookup_answered, if_pos rfl,
    Option.none_or]

/-- Once the target is settled, so is the mode. -/
theorem pulls_of_gives_resolveDelivery {delivery : Option String}
    (hnotMem : .deliverySubject ∉ t.asked)
    (h : (resolveDelivery prompter flags).Gives t delivery t') :
    flags.pulls (prompter.answers [] t'.asked) = delivery.isNone := by
  obtain ⟨subject, rfl, -, htarget⟩ := of_gives_resolveDelivery h
  rcases of_gives_resolveTarget htarget with ⟨hpull, rfl, -⟩ | ⟨hpush, hsubject⟩
  · simp [Flags.pulls, hpull, given]
  · rcases of_gives_resolve hsubject with ⟨hgiven, -⟩ | ⟨hopen, hask⟩
    · have hsubject := (given_eq_some_iff.mp hgiven).2
      simp [Flags.pulls, hpush, hgiven, given_eq_some_iff.mpr ⟨rfl, hsubject⟩]
    · have hlookup := lookup_of_gives_ask hnotMem hask
      by_cases hblank : subject = ""
      · have hnone : given (some subject) = none := by simp [given, hblank]
        simp [Flags.pulls, hpush, hopen, hlookup, hblank, hblank ▸ hnone]
      · have hsome : given (some subject) = some subject := given_eq_some_iff.mpr ⟨rfl, hblank⟩
        simp [Flags.pulls, hpush, hopen, hlookup, hblank, hsome]

/-- Once the token is read, the policy is settled. -/
theorem settledAck?_of_gives_resolve {isPull : Bool} {token : String} {ack : AckPolicy}
    (hnotMem : .ackPolicy ∉ t.asked)
    (h : (resolve prompter (if isPull then some "explicit" else flags.ackPolicy)
      .ackPolicy).Gives t token t')
    (hmode : flags.pulls (prompter.answers [] t'.asked) = isPull)
    (hread : readAckPolicy token = .ok ack) :
    flags.settledAck? (prompter.answers [] t'.asked) = some ack := by
  unfold Flags.settledAck?
  rw [hmode]
  cases isPull with
  | true =>
      obtain ⟨rfl, -⟩ := gives_pure.mp h
      cases hread
      rfl
  | false =>
      have hpolicy : AckPolicy.ofToken? token = some ack := by
        unfold readAckPolicy at hread
        split at hread
        · rename_i policy hpolicy
          cases hread
          exact hpolicy
        · cases hread
      rcases of_gives_resolve h with ⟨hflag, -⟩ | ⟨hopen, hask⟩
      · rw [if_neg Bool.false_ne_true] at hflag ⊢
        rw [hflag]
        exact hpolicy
      · rw [if_neg Bool.false_ne_true] at hopen ⊢
        rw [hopen, lookup_of_gives_ask hnotMem hask]
        exact hpolicy

end Whole

/-! ## Every resolution -/

/-- Flags and answers have decided about the mode and the policy. -/
structure Decided (flags : Flags) (answers : List (Question × String)) (isPull : Bool)
    (ack : AckPolicy) : Prop where
  mode : flags.pulls answers = isPull
  policy : flags.settledAck? answers = some ack

/-- What is decided is not changed by answers to other questions. -/
theorem Decided.later {flags : Flags} {answers answers' : List (Question × String)} {isPull : Bool}
    {ack : AckPolicy} {question : Question} (h : Decided flags answers isPull ack)
    (hsame : ∀ other, other ≠ question → answers'.lookup other = answers.lookup other)
    (hquestion : question ≠ .deliverySubject ∧ question ≠ .ackPolicy) :
    Decided flags answers' isPull ack := by
  have hdelivery := hsame .deliverySubject hquestion.1.symm
  have hack := hsame .ackPolicy hquestion.2.symm
  exact ⟨(pulls_congr hdelivery).trans h.mode, (settledAck?_congr hdelivery hack).trans h.policy⟩

theorem interviews_resolveFlags (prompter : Prompter) (now : Instant) (flags : Flags) :
    Interviews prompter flags (resolveFlags prompter now flags) {} := by
  have hstart : Course prompter flags [] (.ok ()) ({} : Transcript).asked := course_nil ()
  unfold resolveFlags
  refine interviews_bind hstart poses_resolveName (by decide) ?_ fun _ t₁ _ h₁ _ => ?_
  · simp [Flags.leavesOpen, Flags.supplies, Flags.rulesOut, Bool.and_comm]
  refine interviews_bind h₁ poses_resolveDelivery (by decide) ?_
    fun delivery t₂ hdelivery h₂ _ => ?_
  · simp [Flags.leavesOpen, Flags.supplies, Flags.rulesOut, Bool.and_comm]
  have hmode₂ := pulls_of_gives_resolveDelivery (h₁.notMem (by decide)) hdelivery
  refine interviews_bind h₂ (poses_resolve _) (by decide) ?_ fun _ t₃ _ h₃ hsame₃ => ?_
  · simp [Flags.leavesOpen, Flags.supplies, Flags.rulesOut]
  have hmode₃ := (pulls_congr (hsame₃ .deliverySubject (by decide))).trans hmode₂
  refine interviews_ofExcept_bind h₃ fun _ _ => ?_
  -- whoever pulls is not asked about the policy, because the program has the answer
  refine interviews_bind h₃ (poses_resolve _) (by decide) ?_ fun ackToken t₄ hack h₄ hsame₄ => ?_
  · rw [Flags.leavesOpen, Flags.rulesOut, hmode₃]
    cases delivery with
    | none => simp
    | some subject => simp [Flags.supplies]
  have hmode₄ := (pulls_congr (hsame₄ .deliverySubject (by decide))).trans hmode₃
  refine interviews_bind h₄ (poses_resolve _) (by decide) ?_ fun _ t₅ _ h₅ hsame₅ => ?_
  · simp [Flags.leavesOpen, Flags.supplies, Flags.rulesOut]
  refine interviews_ofExcept_bind h₅ fun ack hread => ?_
  have hack₄ := settledAck?_of_gives_resolve (h₃.notMem (by decide)) hack hmode₄ hread
  have hdecided₄ : Decided flags (prompter.answers [] t₄.asked) delivery.isNone ack :=
    ⟨hmode₄, hack₄⟩
  have hdecided₅ := hdecided₄.later hsame₅ (by decide)
  refine interviews_ofExcept_bind h₅ fun _ _ => interviews_ofExcept_bind h₅ fun _ _ => ?_
  refine interviews_bind h₅ (poses_resolve _) (by decide) ?_ fun _ t₆ _ h₆ hsame₆ => ?_
  · simp [Flags.leavesOpen, Flags.supplies, Flags.rulesOut]
  have hdecided₆ := hdecided₅.later hsame₆ (by decide)
  refine interviews_bind h₆ (poses_resolveLimit _ _ _) (by decide) ?_ fun _ t₇ _ h₇ hsame₇ => ?_
  · simp [Flags.leavesOpen, Flags.supplies, Flags.rulesOut, hdecided₆.policy, bne]
  have hdecided₇ := hdecided₆.later hsame₇ (by decide)
  refine interviews_bind h₇ (poses_resolveLimit _ _ _) (by decide) ?_ fun _ t₈ _ h₈ hsame₈ => ?_
  · simp [Flags.leavesOpen, Flags.supplies, Flags.rulesOut, hdecided₇.policy, bne]
  have hdecided₈ := hdecided₇.later hsame₈ (by decide)
  dsimp only
  split
  · exact (h₈.ended (.error rateLimitOnPull : Except Error Config)).interview_error
  · exact (h₈.ended (.ok _)).interview_ok hdecided₈.mode hdecided₈.policy

/-- The questions that are asked for a configuration without a file, whether or not it comes about:
they come in one order, none comes twice, and each was left open by the flags and the earlier
answers.  With a configuration in the end, all that were left open have been asked, and after a
question without a usable answer there is no other. -/
theorem interview_of_build {circumstances : Circumstances} {prompter : Prompter} {flags : Flags}
    (hfile : flags.configFile = none) :
    Interview prompter flags (build circumstances prompter flags).outcome.1
      (build circumstances prompter flags).outcome.2.asked := by
  rw [build_eq_resolveFlags hfile]
  exact interviews_resolveFlags prompter circumstances.now flags

/-- A push consumer without acknowledgements is asked neither for limits nor for what the flags say;
its empty name in the flags says nothing. -/
theorem interview_of_build_unacknowledged :
    let flags : Flags := { name := some "", filterSubject := some "", maxDeliver := some 3 }
    let prompter : Prompter :=
      { ask := fun _ question => .ok <|
          match question with
          | .durableName => "jobs"
          | .deliverySubject => " out "
          | .startPolicy => "all"
          | .ackPolicy => "NONE"
          | .replayPolicy => "instant"
          | _ => " "
        choose := Prompter.refuseChoice }
    let outcome := (build { now := default } prompter flags).outcome
    flags.configFile = none ∧
      outcome.2.asked = [.durableName, .deliverySubject, .startPolicy, .ackPolicy, .replayPolicy] ∧
      Interview prompter flags outcome.1 outcome.2.asked := by
  intro flags prompter outcome
  exact ⟨rfl, rfl, interview_of_build rfl⟩

/-- A blank answer to a question that needs one is the end of the questions. -/
example :
    (build { now := default }
      { ask := fun _ question => .ok (if question = .startPolicy then " " else "jobs")
        choose := Prompter.refuseChoice } {}).outcome.2.asked =
      [.durableName, .deliverySubject, .startPolicy] := rfl

end JetStream.Consumer

import JetStream.Broker.Simulation
import JetStream.Consumer.Subscription
import JetStream.Proofs.Procedure.Conversation
import JetStream.Proofs.Report.Message

/-!
# What a subscription does about each message

A subscription shows the messages in the order in which they come, and acknowledges each before the
next is shown.  This file says so of every subscription whose texts are shown and that the broker
accepts, whatever becomes of the acknowledgements.

## Strategy

A `Receipt` is what was done about one message: when and by which text it was shown, and what the
broker replied to its acknowledgement, if there was one.  Its exchanges with the world and its part
in the summary are read off it, and `Receipt.IsShown` says that the text is one for the message.
The loop adds the receipt of its message to those of the rest (`ensures_receiveAll`), so that
everything there is to say about a subscription is said about a list of receipts.
-/

namespace JetStream

/-- A text is shown, and a subscription accepted.  All else may fail. -/
def Exchange.Succeeds : Exchange → Prop
  | ⟨.write _, answer⟩ => answer = .ok ()
  | ⟨.request (.subscribe _), answer⟩ => ∃ messages, answer = .ok messages
  | _ => True

namespace Consumer

open Job (Ensures)

/-! ## Receipts -/

/-- What was done about a message. -/
structure Receipt where
  message : Message
  /-- The time of day at which it was shown. -/
  clock : String
  /-- The text that was shown. -/
  text : String
  /-- The reply to its acknowledgement. -/
  reply : Option (Except Error Unit)

/-- What is shown when an acknowledgement fails. -/
def failureLine (message : Message) (e : Error) : String :=
  "Acknowledging message via subject " ++ message.reply.getD "" ++ " failed: " ++ e.message ++ "\n"

namespace Receipt

/-- The exchanges about the acknowledgement. -/
def acknowledgement (receipt : Receipt) : List Exchange :=
  match receipt.reply with
  | none => []
  | some (.ok ()) => [⟨.request (.respondEmpty receipt.message), .ok ()⟩]
  | some (.error e) =>
      [⟨.request (.respondEmpty receipt.message), .error e⟩,
       ⟨.write (failureLine receipt.message e), .ok ()⟩]

/-- The exchanges about the message: a text is shown, and then the message is acknowledged. -/
def exchanges (receipt : Receipt) : List Exchange :=
  [⟨.timeOfDay, receipt.clock⟩, ⟨.write receipt.text, .ok ()⟩] ++ receipt.acknowledgement

/-- The text shows the message, as one that was pushed. -/
def IsShown (raw : Bool) (receipt : Receipt) : Prop :=
  Report.Shows receipt.clock receipt.message .pushed raw receipt.text

/-- The acknowledgement succeeded. -/
def isAcknowledged (receipt : Receipt) : Bool := receipt.reply.any (·.isOk)

/-- The acknowledgement failed. -/
def isFailure (receipt : Receipt) : Bool := receipt.reply.any (!·.isOk)

end Receipt

/-- A summary that counts some receipts more. -/
def Summary.add (s : Summary) (receipts : List Receipt) : Summary where
  received := s.received + receipts.length
  acknowledged := s.acknowledged + receipts.countP (·.isAcknowledged)
  failures := s.failures + receipts.countP (·.isFailure)

theorem Summary.add_cons (s : Summary) (receipt : Receipt) (receipts : List Receipt) :
    s.add (receipt :: receipts) = (s.add [receipt]).add receipts := by
  unfold Summary.add
  rw [← List.singleton_append, List.length_append, List.countP_append, List.countP_append]
  simp only [Nat.add_assoc]

/-- Where every message is acknowledged, each acknowledgement counts once. -/
theorem countP_isAcknowledged_add_isFailure {receipts : List Receipt}
    (hacks : ∀ receipt ∈ receipts, receipt.reply.isSome) :
    receipts.countP (·.isAcknowledged) + receipts.countP (·.isFailure) = receipts.length := by
  have hfailure : receipts.countP (·.isFailure) = receipts.countP (!·.isAcknowledged) := by
    refine List.countP_congr fun receipt hreceipt => ?_
    obtain ⟨reply, hreply⟩ := Option.isSome_iff_exists.mp (hacks receipt hreceipt)
    unfold Receipt.isFailure Receipt.isAcknowledged
    rw [hreply]
    rfl
  rw [hfailure, List.length_eq_countP_add_countP (·.isAcknowledged)]
  simp

theorem countP_of_unacknowledged {receipts : List Receipt}
    (hnone : ∀ receipt ∈ receipts, receipt.reply = none) :
    receipts.countP (·.isAcknowledged) = 0 ∧ receipts.countP (·.isFailure) = 0 := by
  refine ⟨List.countP_eq_zero.mpr ?_, List.countP_eq_zero.mpr ?_⟩
  · intro receipt hreceipt
    unfold Receipt.isAcknowledged
    rw [hnone receipt hreceipt]
    exact Bool.false_ne_true
  · intro receipt hreceipt
    unfold Receipt.isFailure
    rw [hnone receipt hreceipt]
    exact Bool.false_ne_true

/-! ## The loop -/

theorem ensures_reportFailure (message : Message) (e : Error) :
    (reportFailure message e).Ensures fun talk result =>
      (∀ exchange ∈ talk, exchange.Succeeds) →
        dealings talk = [⟨.write (failureLine message e), .ok ()⟩] ∧ result = .ok () := by
  unfold reportFailure
  refine Job.ensures_tell_bind ?_
  intro answer hsucceeds
  obtain rfl : answer = .ok () := hsucceeds _ (List.mem_cons_of_mem _ (List.mem_singleton_self _))
  exact ⟨rfl, rfl⟩

theorem ensures_receive (options : SubscribeOptions) (s : Summary) (message : Message) :
    (receive options s message).Ensures fun talk result =>
      (∀ exchange ∈ talk, exchange.Succeeds) →
        ∃ receipt : Receipt, receipt.message = message ∧ receipt.IsShown options.raw ∧
          receipt.reply.isSome = options.ack ∧ dealings talk = receipt.exchanges ∧
          result = .ok (s.add [receipt]) := by
  unfold receive
  refine Job.ensures_timeOfDay_bind fun clock => ?_
  have hshown := Report.shows_message clock message .pushed options.raw
  generalize Report.message clock message .pushed options.raw = text at hshown
  refine Job.ensures_write_bind ?_ ?_
  · intro e hsucceeds
    exact nomatch hsucceeds _ (List.mem_cons_of_mem _ (List.mem_singleton_self _))
  · cases hack : options.ack with
    | false =>
        refine Job.ensures_pure fun _ => ?_
        exact ⟨⟨message, clock, text, none⟩, rfl, hshown, rfl, rfl, rfl⟩
    | true =>
        refine Job.ensures_attempt_bind ?_
        intro (reply : Except Error Unit)
        cases reply with
        | ok _ =>
            refine Job.ensures_pure fun _ => ?_
            exact ⟨⟨message, clock, text, some (.ok ())⟩, rfl, hshown, rfl, rfl, rfl⟩
        | error e =>
            refine Ensures.bind ((ensures_reportFailure message e).mono ?_)
            intro talk result hreport
            cases result with
            | error e' =>
                intro hsucceeds
                obtain ⟨-, hresult⟩ := hreport fun exchange hexchange =>
                  hsucceeds _ (by simp [hexchange])
                exact nomatch hresult
            | ok _ =>
                refine Job.ensures_pure fun hsucceeds => ?_
                obtain ⟨htalk, -⟩ := hreport fun exchange hexchange =>
                  hsucceeds _ (by simp [hexchange])
                refine ⟨⟨message, clock, text, some (.error e)⟩, rfl, hshown, rfl, ?_, rfl⟩
                show _ :: _ :: _ :: dealings (talk ++ []) = _
                rw [List.append_nil, htalk]
                rfl

theorem ensures_receiveAll (options : SubscribeOptions) (messages : List Message) (s : Summary) :
    (receiveAll options messages s).Ensures fun talk result =>
      (∀ exchange ∈ talk, exchange.Succeeds) →
        ∃ receipts : List Receipt, receipts.map (·.message) = messages ∧
          (∀ receipt ∈ receipts, receipt.IsShown options.raw) ∧
          (∀ receipt ∈ receipts, receipt.reply.isSome = options.ack) ∧
          dealings talk = receipts.flatMap (·.exchanges) ∧ result = .ok (s.add receipts) := by
  induction messages generalizing s with
  | nil => exact Job.ensures_pure fun _ => ⟨[], rfl, nofun, nofun, rfl, rfl⟩
  | cons message rest ih =>
      unfold receiveAll
      refine Ensures.bind ((ensures_receive options s message).mono ?_)
      intro talk result hreceive
      cases result with
      | error e =>
          intro hsucceeds
          obtain ⟨_, -, -, -, -, hresult⟩ := hreceive hsucceeds
          exact nomatch hresult
      | ok s' =>
          refine (ih s').mono ?_
          intro more result hrest hsucceeds
          obtain ⟨hfirst, hmore⟩ := List.forall_mem_append.mp hsucceeds
          obtain ⟨receipt, hmessage, hshown, hack, htalk, hs'⟩ := hreceive hfirst
          obtain ⟨receipts, hmessages, hshowns, hacks, htalks, hresult⟩ := hrest hmore
          obtain rfl : s' = s.add [receipt] := Except.ok.inj hs'
          refine ⟨receipt :: receipts, ?_, List.forall_mem_cons.mpr ⟨hshown, hshowns⟩,
            List.forall_mem_cons.mpr ⟨hack, hacks⟩, ?_, ?_⟩
          · rw [List.map_cons, hmessage, hmessages]
          · rw [dealings_append, htalk, htalks, List.flatMap_cons]
          · rw [hresult, ← Summary.add_cons]

/-! ## Whole subscriptions -/

section
variable {β : Type} {Q : List Exchange → Except Error β → Prop}

/-- What is shown before the first message. -/
def headerExchanges (raw : Bool) (text : String) : List Exchange :=
  if raw then [] else [⟨.write text, .ok ()⟩]

theorem dealings_headerExchanges (raw : Bool) (text : String) :
    dealings (headerExchanges raw text) = headerExchanges raw text := by
  cases raw <;> rfl

theorem ensures_header {raw : Bool} {text : String} {job : Job β}
    (hfailed : ∀ e, Q [⟨.write text, .error e⟩] (.error e))
    (hshown : job.Ensures fun more => Q (headerExchanges raw text ++ more)) :
    (if !raw then Job.write text >>= fun _ => job else job).Ensures Q := by
  cases raw with
  | true => exact hshown
  | false => exact Job.ensures_write_bind hfailed hshown

/-- The end is told, after the interruption if there was one. -/
theorem ensures_subscriptionEnded {isInterrupted : Bool} {interrupted ended : Log.Event} {value : β}
    (hQ : ∀ talk, dealings talk = [] → Q talk (.ok value)) :
    (if isInterrupted then do Job.tell interrupted; Job.tell ended; pure value
      else do Job.tell ended; pure value).Ensures Q := by
  cases isInterrupted with
  | false => exact Job.ensures_tell_bind (Job.ensures_pure (hQ _ rfl))
  | true =>
      exact Job.ensures_tell_bind (Job.ensures_tell_bind (Job.ensures_pure (hQ _ rfl)))

end

theorem ensures_subscribe (h : Handle) (options : SubscribeOptions) (interruption : Option Nat)
    {subject : String} (hpush : h.config.deliverSubject = some subject) :
    (subscribe h options interruption).Ensures fun talk result =>
      (∀ exchange ∈ talk, exchange.Succeeds) →
        ∃ (messages : List Message) (receipts : List Receipt),
          receipts.map (·.message) = (interruption.map messages.take).getD messages ∧
          (∀ receipt ∈ receipts, receipt.IsShown options.raw) ∧
          (∀ receipt ∈ receipts, receipt.reply.isSome = (options.effective h).ack) ∧
          dealings talk =
            headerExchanges options.raw (subscriptionHeader h subject (options.effective h).ack) ++
              ⟨.request (.subscribe subject), .ok messages⟩ :: receipts.flatMap (·.exchanges) ∧
          result = .ok (({} : Summary).add receipts) := by
  unfold subscribe
  rw [hpush]
  dsimp only
  refine ensures_header ?_ ?_
  · intro e hsucceeds
    exact nomatch hsucceeds _ (List.mem_singleton_self _)
  refine Job.ensures_request_bind ?_ ?_
  · intro e hsucceeds
    obtain ⟨_, hanswer⟩ := hsucceeds _ (List.mem_append_right _ (List.mem_singleton_self _))
    exact nomatch hanswer
  intro (messages : List Message)
  refine Job.ensures_tell_bind ?_
  refine Ensures.bind ((ensures_receiveAll _ _ _).mono ?_)
  intro talk result hreceived
  cases result with
  | error e =>
      intro hsucceeds
      obtain ⟨_, -, -, -, -, hresult⟩ := hreceived fun exchange hexchange =>
        hsucceeds _ (by simp [hexchange])
      exact nomatch hresult
  | ok summary =>
      refine ensures_subscriptionEnded fun ended hended hsucceeds => ?_
      obtain ⟨receipts, hmessages, hshowns, hacks, htalk, hsummary⟩ :=
        hreceived fun exchange hexchange => hsucceeds _ (by simp [hexchange])
      obtain rfl := Except.ok.inj hsummary
      refine ⟨messages, receipts, hmessages, hshowns, hacks, ?_, rfl⟩
      rw [dealings_append, dealings_headerExchanges]
      show _ ++ _ :: dealings (talk ++ ended) = _
      rw [dealings_append, htalk, hended, List.append_nil]
      rfl

/-- A subscription to the subject of a push consumer, whose texts are shown and that the broker
accepts, goes through the messages, or through a part from the first one on if it is interrupted.
One after another is shown, by its body or with all there is to tell about it, and then
acknowledged, unless the consumer or the operator wants no acknowledgements; a failure is shown
before the next message. -/
theorem subscribe_receipts {σ : Type} (handler : Procedure.Handler σ) (world : σ) (h : Handle)
    (options : SubscribeOptions) (interruption : Option Nat) {subject : String}
    (hpush : h.config.deliverSubject = some subject)
    (hsucceeds : ∀ exchange ∈
      (subscribe h options interruption).run.conversation handler world, exchange.Succeeds) :
    let acks := options.ack = true ∧ h.config.ackPolicy ≠ .none
    ∃ (messages : List Message) (receipts : List Receipt) (summary : Summary),
      dealings ((subscribe h options interruption).run.conversation handler world) =
        headerExchanges options.raw (subscriptionHeader h subject (decide acks)) ++
          ⟨.request (.subscribe subject), .ok messages⟩ :: receipts.flatMap (·.exchanges) ∧
      receipts.map (·.message) =
        (match interruption with
          | none => messages
          | some count => messages.take count) ∧
      (∀ receipt ∈ receipts, receipt.IsShown options.raw) ∧
      (∀ receipt ∈ receipts, receipt.reply.isSome ↔ acks) ∧
      ((subscribe h options interruption).run.run handler world).1 = .ok summary ∧
      summary.received = receipts.length ∧
      summary.acknowledged = receipts.countP (·.isAcknowledged) ∧
      summary.failures = receipts.countP (·.isFailure) ∧
      (acks → summary.acknowledged + summary.failures = summary.received) ∧
      (¬acks → summary.acknowledged = 0 ∧ summary.failures = 0) := by
  intro acks
  have hacks : (options.effective h).ack = decide acks := by
    show (options.ack && decide (h.config.ackPolicy ≠ .none)) = decide acks
    simp [acks]
  obtain ⟨messages, receipts, hmessages, hshowns, hreplies, htalk, hresult⟩ :=
    Procedure.Ensures.run (ensures_subscribe h options interruption hpush) handler world hsucceeds
  rw [hacks] at hreplies htalk
  refine ⟨messages, receipts, _, htalk, ?_, hshowns, ?_, hresult, Nat.zero_add _, Nat.zero_add _,
    Nat.zero_add _, ?_, ?_⟩
  · rw [hmessages]
    cases interruption <;> rfl
  · intro receipt hreceipt
    rw [hreplies receipt hreceipt, decide_eq_true_iff]
  · intro hwanted
    show 0 + _ + (0 + _) = 0 + receipts.length
    simp only [Nat.zero_add]
    refine countP_isAcknowledged_add_isFailure fun receipt hreceipt => ?_
    rw [hreplies receipt hreceipt, decide_eq_true_iff]
    exact hwanted
  · intro hunwanted
    have hnone (receipt : Receipt) (hreceipt : receipt ∈ receipts) : receipt.reply = none := by
      refine Option.not_isSome_iff_eq_none.mp ?_
      rw [hreplies receipt hreceipt, decide_eq_true_iff]
      exact hunwanted
    obtain ⟨hacknowledged, hfailed⟩ := countP_of_unacknowledged hnone
    exact ⟨(Nat.zero_add _).trans hacknowledged, (Nat.zero_add _).trans hfailed⟩

/-- A handler that shows every text and accepts every subscription does so in every run. -/
theorem succeeds_of_handler {σ α : Type} (handler : Procedure.Handler σ)
    (hwrite : ∀ text world, (handler (.write text) world).1 = .ok ())
    (hsubscribe : ∀ subject world, ∃ messages,
      (handler (.request (.subscribe subject)) world).1 = .ok messages)
    (p : Procedure α) (world : σ) :
    ∀ exchange ∈ p.conversation handler world, exchange.Succeeds := by
  induction p generalizing world with
  | done value => exact List.forall_mem_nil _
  | perform effect next ih =>
      refine List.forall_mem_cons.mpr ⟨?_, ih _ _⟩
      cases effect with
      | write text => exact hwrite text world
      | request r =>
          cases r with
          | subscribe subject => exact hsubscribe subject world
          | _ => trivial
      | _ => trivial

/-- Two messages in raw form, of which the second cannot be acknowledged. -/
theorem subscribe_receipts_unanswerable :
    let messages : List Message :=
      [{ subject := "a", reply := some "r", payload := [0x68, 0x69] },
       { subject := "a", headers := [("k", "v")], payload := [0xc3, 0xa4, 0x0a] }]
    let w : Broker.Simulation := { now := .epoch, broker := { raw := [("p", messages)] } }
    let job := subscribe ⟨"S", "D", { deliverSubject := some "p" }⟩ { raw := true } none
    ∃ (receipts : List Receipt) (summary : Summary),
      dealings (job.run.conversation Broker.Simulation.handle w) =
        ⟨.request (.subscribe "p"), .ok messages⟩ :: receipts.flatMap Receipt.exchanges ∧
      receipts.map (·.message) = messages ∧ receipts.map (·.text) = ["hi\n", "ä\n\n"] ∧
      (job.run.run Broker.Simulation.handle w).1 = .ok summary ∧
      summary.acknowledged + summary.failures = summary.received := by
  intro messages w job
  have hsucceeds := succeeds_of_handler Broker.Simulation.handle (fun _ _ => rfl)
    (fun subject world => ⟨(world.broker.subscribe subject).1, rfl⟩) job.run w
  obtain ⟨answered, receipts, summary, htalk, hmessages, hshown, -, hresult, -, -, -, hcounts, -⟩ :=
    subscribe_receipts Broker.Simulation.handle w ⟨"S", "D", { deliverSubject := some "p" }⟩
      { raw := true } none rfl hsucceeds
  obtain rfl : messages = answered := by
    have hfirst : some ⟨.request (.subscribe "p"), .ok messages⟩ =
        some (⟨.request (.subscribe "p"), .ok answered⟩ : Exchange) := congrArg (·[0]?) htalk
    cases hfirst
    rfl
  refine ⟨receipts, summary, htalk, hmessages, ?_, hresult, hcounts (by decide)⟩
  obtain ⟨first, rest, rfl, hfirst, hrest⟩ := List.map_eq_cons_iff.mp hmessages
  obtain ⟨second, rest, rfl, hsecond, hrest⟩ := List.map_eq_cons_iff.mp hrest
  obtain rfl := List.map_eq_nil_iff.mp hrest
  have hfirstText : first.text = "hi" ++ "\n" := by
    refine (hshown first List.mem_cons_self).eq_of_raw ?_
    rw [hfirst, Text.encode_eq_flatMap]
    decide
  have hsecondText : second.text = "ä\n" ++ "\n" := by
    refine (hshown second (by simp)).eq_of_raw ?_
    rw [hsecond, Text.encode_eq_flatMap]
    decide
  rw [List.map_cons, List.map_cons, List.map_nil, hfirstText, hsecondText]
  decide

end Consumer

end JetStream

import JetStream.Consumer.Fetch
import JetStream.Proofs.Error.Context
import JetStream.Proofs.Procedure.Conversation
import JetStream.Proofs.Report.Message

/-!
# How a fetch goes

A fetch asks the broker for a message, shows it, and acknowledges it after a delay.  Each of these
steps can fail, and then none of the later ones is made.  This file lists the conversations that a
fetch can have with the world, whatever the world answers, and says that there are no others.

## Strategy

`FetchCourse` follows the text of `fetch`: one constructor for each way out, and one for everything
that begins with the acknowledgement, which has an `AcknowledgementCourse` of its own.  What is said
of the order of the requests, of the flush and of the result is read off the constructors.
-/

namespace JetStream

/-! ## The delay -/

/-- The delay is within a limit: below it, and none at all where the limit is none. -/
def Duration.IsWithin (delay limit : Duration) : Prop :=
  (limit.nanoseconds = 0 → delay.nanoseconds = 0) ∧
    (0 < limit.nanoseconds → delay.nanoseconds < limit.nanoseconds)

/-- A limit of more than 64 bits of nanoseconds is cut to what a random source can give, and a delay
is below that as well. -/
theorem RandomSource.delay_isWithin (source : RandomSource) (limit : Duration) :
    (source.delay limit).1.IsWithin limit := by
  have hdelay : (source.delay limit).1 =
      ⟨(source.below (min limit.nanoseconds (UInt64.size - 1))).1⟩ := rfl
  rw [hdelay]
  constructor
  · intro hzero
    rw [hzero, Nat.zero_min]
    rfl
  · intro hpositive
    have hbound : 0 < min limit.nanoseconds (UInt64.size - 1) := by
      simp only [UInt64.size]
      omega
    have hbelow : (source.below (min limit.nanoseconds (UInt64.size - 1))).1 <
        min limit.nanoseconds (UInt64.size - 1) := by
      unfold below
      rw [if_neg (Nat.ne_of_gt hbound)]
      exact pick_lt hbound source.words
    exact Nat.lt_of_lt_of_le hbelow (Nat.min_le_left _ _)

namespace Consumer

open Job (Ensures)

/-! ## Exchanges of a fetch -/

/-- The next message is asked for, with this reply. -/
def Handle.fetching (h : Handle) (expiry : Duration) (reply : Except Error Message) : Exchange :=
  ⟨.request (.fetchNext h.stream h.name expiry), reply⟩

/-- A text is shown at a time of day, with this outcome. -/
def showing (clock text : String) (outcome : Except Error Unit) : List Exchange :=
  [⟨.timeOfDay, clock⟩, ⟨.write text, outcome⟩]

/-- Time passes, if there is a delay. -/
def delaying (delay : Duration) : List Exchange :=
  if delay.isZero then [] else [⟨.wait delay, ()⟩]

/-- A message is replied to, with this outcome. -/
def replying (message : Message) (outcome : Except Error Unit) : Exchange :=
  ⟨.request (.respondEmpty message), outcome⟩

/-- The broker is asked to deliver what was sent, with this outcome. -/
def flushing (outcome : Except Error Unit) : Exchange := ⟨.request .flush, outcome⟩

/-- The ways an acknowledgement can go. -/
inductive AcknowledgementCourse (message : Message) (raw : Bool) (delay : Duration) :
    List Exchange → Except Error Unit → Prop where
  | refused (e : Error) :
      AcknowledgementCourse message raw delay (delaying delay ++ [replying message (.error e)])
        (.error (e.inContext "could not acknowledge message"))
  | unflushed (e : Error) :
      AcknowledgementCourse message raw delay
        (delaying delay ++ [replying message (.ok ()), flushing (.error e)]) (.error e)
  /-- In raw form nothing is shown but the body of the message. -/
  | untold (hraw : raw = true) :
      AcknowledgementCourse message raw delay
        (delaying delay ++ [replying message (.ok ()), flushing (.ok ())]) (.ok ())
  | told (hraw : raw = false) (outcome : Except Error Unit) :
      AcknowledgementCourse message raw delay
        (delaying delay ++
          [replying message (.ok ()), flushing (.ok ()),
           ⟨.write (acknowledgedText delay), outcome⟩]) outcome

/-- The ways a fetch can go: what is exchanged with the world, and the result. -/
inductive FetchCourse (h : Handle) (options : FetchOptions) :
    List Exchange → Except Error Fetched → Prop where
  | missing (e : Error) :
      FetchCourse h options [h.fetching options.expiry (.error e)]
        (.error (e.inContext "no message received"))
  | unshown (message : Message) {clock text : String}
      (hshows : Report.Shows clock message .pulled options.raw text) (e : Error) :
      FetchCourse h options
        (h.fetching options.expiry (.ok message) :: showing clock text (.error e))
        (.error e)
  | unacknowledged (hack : options.ack = false) (message : Message) {clock text : String}
      (hshows : Report.Shows clock message .pulled options.raw text) :
      FetchCourse h options
        (h.fetching options.expiry (.ok message) :: showing clock text (.ok ()))
        (.ok ⟨message, none⟩)
  | acknowledging (hack : options.ack = true) (message : Message) {clock text : String}
      (hshows : Report.Shows clock message .pulled options.raw text)
      (delay : Duration) (hdelay : delay.IsWithin options.ackWait) {talk : List Exchange}
      {result : Except Error Unit}
      (hcourse : AcknowledgementCourse message options.raw delay talk result) :
      FetchCourse h options
        (h.fetching options.expiry (.ok message) ::
          (showing clock text (.ok ()) ++ talk))
        (result.map fun _ => ⟨message, some delay⟩)

/-! ## One step after another -/

section
variable {β : Type} {Q : List Exchange → Except Error β → Prop}

/-- A request that ends the job when it is refused, with a context for the refusal. -/
theorem ensures_request_inContext_bind {r : Broker.Request} {context : String}
    {f : r.Answer → Job β}
    (hrefused : ∀ e, Q [⟨.request r, .error e⟩] (.error (e.inContext context)))
    (hanswered : ∀ answer, (f answer).Ensures fun more => Q (⟨.request r, .ok answer⟩ :: more)) :
    (Job.inContext context (Job.request r) >>= f).Ensures Q := by
  apply Ensures.bind
  intro reply
  cases reply with
  | error e => exact hrefused e
  | ok answer => exact hanswered answer

/-- The delay before a job, which is told if there is one. -/
theorem ensures_delaying {delay : Duration} {event : Log.Event} {job : Job β}
    (hjob : job.Ensures fun more => Q (delaying delay ++ dealings more)) :
    (if (!delay.isZero) = true then do Job.tell event; Job.wait delay; job else job).Ensures
      fun talk => Q (dealings talk) := by
  unfold delaying at hjob
  cases hzero : delay.isZero with
  | true =>
      rw [hzero] at hjob
      exact hjob
  | false =>
      rw [hzero] at hjob
      exact Job.ensures_tell_bind (Job.ensures_wait_bind hjob)

end

theorem ensures_acknowledge (message : Message) (raw : Bool) (delay : Duration) :
    (acknowledge message raw delay).Ensures fun talk result =>
      AcknowledgementCourse message raw delay (dealings talk) result := by
  unfold acknowledge
  dsimp only
  apply ensures_delaying (Q := AcknowledgementCourse message raw delay)
  apply ensures_request_inContext_bind
  · intro e
    exact .refused e
  intro _
  apply Job.ensures_request_bind
  · intro e
    exact .unflushed e
  intro _
  apply Job.ensures_tell_bind
  cases hraw : raw with
  | true => exact Job.ensures_pure (.untold rfl)
  | false =>
      intro outcome
      exact .told rfl outcome

theorem ensures_fetch (h : Handle) (options : FetchOptions) (source : RandomSource) :
    (fetch h options source).Ensures fun talk result =>
      FetchCourse h options (dealings talk) result := by
  unfold fetch
  apply ensures_request_inContext_bind
  · intro e
    exact .missing e
  intro (message : Message)
  apply Job.ensures_tell_bind
  apply Job.ensures_timeOfDay_bind
  intro clock
  have hshows := Report.shows_message clock message .pulled options.raw
  generalize Report.message clock message .pulled options.raw = text at hshows
  apply Job.ensures_write_bind
  · intro e
    exact .unshown message hshows e
  cases hack : options.ack with
  | false => exact Job.ensures_pure (.unacknowledged hack message hshows)
  | true =>
      have hdelay := source.delay_isWithin options.ackWait
      generalize (source.delay options.ackWait).1 = delay at hdelay
      apply Ensures.bind
      refine (ensures_acknowledge message options.raw delay).mono ?_
      intro talk result hcourse
      have hfetched := FetchCourse.acknowledging (h := h) hack message hshows delay hdelay hcourse
      cases result with
      | error e => exact hfetched
      | ok _ =>
          apply Job.ensures_pure
          rw [List.append_nil]
          exact hfetched

/-! ## What is read off a course -/

/-- The requests in a conversation, in their order. -/
def requests (talk : List Exchange) : List Broker.Request :=
  talk.filterMap fun exchange =>
    match exchange.effect with
    | .request r => some r
    | _ => none

theorem requests_append (talk more : List Exchange) :
    requests (talk ++ more) = requests talk ++ requests more :=
  List.filterMap_append

theorem requests_delaying (delay : Duration) : requests (delaying delay) = [] := by
  unfold delaying
  split
  · rfl
  · rfl

theorem request_notMem_delaying {r : Broker.Request} {reply : Except Error r.Answer}
    (delay : Duration) : ⟨.request r, reply⟩ ∉ delaying delay := by
  unfold delaying
  split
  · exact List.not_mem_nil
  · simp

namespace AcknowledgementCourse

variable {message : Message} {raw : Bool} {delay : Duration} {talk : List Exchange}
  {result : Except Error Unit}

theorem requests_prefix (h : AcknowledgementCourse message raw delay talk result) :
    requests talk <+: [.respondEmpty message, .flush] := by
  cases h with
  | refused e =>
      rw [requests_append, requests_delaying]
      exact ⟨[.flush], rfl⟩
  | _ =>
      rw [requests_append, requests_delaying]
      exact List.prefix_refl _

/-- There is a flush exactly after a reply that was taken. -/
theorem flush_mem_iff (h : AcknowledgementCourse message raw delay talk result) :
    .flush ∈ requests talk ↔ replying message (.ok ()) ∈ talk := by
  cases h with
  | _ =>
      rw [requests_append, requests_delaying]
      simp [requests, replying, flushing, request_notMem_delaying]

/-- If texts are shown, the message is acknowledged exactly if the reply and the flush are taken. -/
theorem result_eq_ok_iff (h : AcknowledgementCourse message raw delay talk result)
    (hshown : ∀ text outcome, ⟨.write text, outcome⟩ ∈ talk → outcome = .ok ()) :
    result = .ok () ↔ replying message (.ok ()) ∈ talk ∧ flushing (.ok ()) ∈ talk := by
  cases h with
  | refused e => simp [replying, request_notMem_delaying]
  | unflushed e => simp [replying, flushing, request_notMem_delaying]
  | untold hraw => simp [replying, flushing]
  | told hraw outcome =>
      have houtcome : result = .ok () := hshown (acknowledgedText delay) result (by simp)
      simp [replying, flushing, houtcome]

end AcknowledgementCourse

/-- What comes after the request for a message: nothing if it is refused, else at most a reply to the
message and a flush. -/
structure FollowsUp (reply : Except Error Message) (rest : List Exchange)
    (result : Except Error Fetched) : Prop where
  nothing_of_refused : ∀ e, reply = .error e →
    rest = [] ∧ ∃ reported, result = .error reported ∧ reported.bare = e.bare
  requests_prefix : ∀ message, reply = .ok message →
    requests rest <+: [.respondEmpty message, .flush]
  flush_iff : ∀ message, reply = .ok message →
    (.flush ∈ requests rest ↔ replying message (.ok ()) ∈ rest)
  /-- A delay is reported exactly if the reply and the flush are taken. -/
  delay_iff : ∀ message, reply = .ok message →
    (∀ text outcome, ⟨.write text, outcome⟩ ∈ rest → outcome = .ok ()) →
      ((∃ delay, result = .ok ⟨message, some delay⟩) ↔
        replying message (.ok ()) ∈ rest ∧ flushing (.ok ()) ∈ rest)

theorem followsUp_refused (e : Error) :
    FollowsUp (.error e) [] (.error (e.inContext "no message received")) where
  nothing_of_refused := by
    rintro _ ⟨⟩
    exact ⟨rfl, _, rfl, Error.bare_inContext _ e⟩
  requests_prefix := nofun
  flush_iff := nofun
  delay_iff := nofun

/-- Nothing is asked of the broker while a message is shown. -/
theorem followsUp_showing {message : Message} {clock text : String}
    {outcome : Except Error Unit} {result : Except Error Fetched}
    (hresult : ∀ delay, result ≠ .ok ⟨message, some delay⟩) :
    FollowsUp (.ok message) (showing clock text outcome) result where
  nothing_of_refused := nofun
  requests_prefix := by
    rintro _ ⟨⟩
    exact List.nil_prefix
  flush_iff := by
    rintro _ ⟨⟩
    simp [requests, showing, replying]
  delay_iff := by
    rintro _ ⟨⟩ -
    simp [showing, replying, hresult]

theorem AcknowledgementCourse.followsUp {message : Message} {raw : Bool} {delay : Duration}
    {talk : List Exchange} {result : Except Error Unit} (clock text : String)
    (h : AcknowledgementCourse message raw delay talk result) :
    FollowsUp (.ok message) (showing clock text (.ok ()) ++ talk)
      (result.map fun _ => ⟨message, some delay⟩) := by
  have hrequests : requests (showing clock text (.ok ()) ++ talk) = requests talk := rfl
  have hreply (reply : Except Error Unit) :
      replying message reply ∈ showing clock text (.ok ()) ++ talk ↔
        replying message reply ∈ talk := by
    simp [showing, replying]
  have hflush (reply : Except Error Unit) :
      flushing reply ∈ showing clock text (.ok ()) ++ talk ↔ flushing reply ∈ talk := by
    simp [showing, flushing]
  refine ⟨nofun, ?_, ?_, ?_⟩
  · rintro _ ⟨⟩
    rw [hrequests]
    exact h.requests_prefix
  · rintro _ ⟨⟩
    rw [hrequests, hreply]
    exact h.flush_mem_iff
  · rintro _ ⟨⟩ hshown
    rw [hreply, hflush, ← h.result_eq_ok_iff fun text outcome hmem =>
      hshown text outcome (List.mem_append_right _ hmem)]
    cases result with
    | error e => simp [Except.map]
    | ok _ => simp [Except.map]

/-- Every fetch begins with the request for a message. -/
theorem FetchCourse.exists_followsUp {h : Handle} {options : FetchOptions} {talk : List Exchange}
    {result : Except Error Fetched} (hcourse : FetchCourse h options talk result) :
    ∃ reply rest, talk = h.fetching options.expiry reply :: rest ∧ FollowsUp reply rest result := by
  cases hcourse with
  | missing e => exact ⟨.error e, [], rfl, followsUp_refused e⟩
  | unshown message hshows e => exact ⟨.ok message, _, rfl, followsUp_showing nofun⟩
  | unacknowledged hack message hshows => exact ⟨.ok message, _, rfl, followsUp_showing (by simp)⟩
  | acknowledging hack message hshows delay hdelay hcourse =>
      exact ⟨.ok message, _, rfl, hcourse.followsUp _ _⟩

/-- Every fetch, from any consumer at any broker and with any random source, goes one of the ways
of `FetchCourse`, and what comes after its first request is as `FollowsUp` says. -/
theorem fetch_course {σ : Type} (handler : Procedure.Handler σ) (h : Handle)
    (options : FetchOptions) (source : RandomSource) (world : σ) :
    let talk := dealings ((fetch h options source).run.conversation handler world)
    let result := ((fetch h options source).run.run handler world).1
    FetchCourse h options talk result ∧
      ∃ reply rest, talk = h.fetching options.expiry reply :: rest ∧
        FollowsUp reply rest result := by
  intro talk result
  have hcourse : FetchCourse h options talk result :=
    Procedure.Ensures.run (ensures_fetch h options source) handler world
  exact ⟨hcourse, hcourse.exists_followsUp⟩

end Consumer

end JetStream

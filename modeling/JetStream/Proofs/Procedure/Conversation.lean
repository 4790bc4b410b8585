import JetStream.Procedure

/-!
# What a procedure says and hears

A run of a procedure is a conversation with the world: its effects in their order, each with the
answer it got.  This file gives the conversation of a run, and a way to prove what holds of every
conversation that a procedure can have, whatever the world answers.

## Strategy

`Procedure.Ensures p Q` says that `Q` holds of the conversation and the value of every run of `p`.
It is defined by the recursion of the procedure, with all answers to an effect at once, so that it
can be proved one effect after another: one rule for each job of a single effect, one rule for a
sequence.  `Procedure.Ensures.run` then brings the result to the runs under any handler.
-/

namespace JetStream

/-- An effect, and what the world answered. -/
structure Exchange where
  effect : Effect
  answer : effect.Answer

/-- The exchange tells of an event. -/
def Exchange.isTelling : Exchange → Bool
  | ⟨.tell _, _⟩ => true
  | _ => false

/-- The exchanges that do more than tell of an event. -/
def dealings (talk : List Exchange) : List Exchange :=
  talk.filter (!·.isTelling)

@[simp] theorem dealings_append (talk more : List Exchange) :
    dealings (talk ++ more) = dealings talk ++ dealings more :=
  List.filter_append ..

namespace Procedure

variable {α β : Type} {σ : Type}

/-- The exchanges of a run, in their order. -/
def conversation (handler : Handler σ) : Procedure α → σ → List Exchange
  | done _, _ => []
  | perform effect next, world =>
      let (answer, world) := handler effect world
      ⟨effect, answer⟩ :: conversation handler (next answer) world

/-- Every run of the procedure ends with a conversation and a value that the property holds of. -/
def Ensures : Procedure α → (List Exchange → α → Prop) → Prop
  | done value, Q => Q [] value
  | perform effect next, Q =>
      ∀ answer, Ensures (next answer) fun talk value => Q (⟨effect, answer⟩ :: talk) value

theorem Ensures.mono {p : Procedure α} {Q R : List Exchange → α → Prop}
    (hp : p.Ensures Q) (hQR : ∀ talk value, Q talk value → R talk value) : p.Ensures R := by
  induction p generalizing Q R with
  | done value => exact hQR [] value hp
  | perform effect next ih =>
      intro answer
      exact ih answer (hp answer) fun talk value => hQR (⟨effect, answer⟩ :: talk) value

/-- A sequence: what the second procedure ensures is to follow what the first one said. -/
theorem Ensures.bind {p : Procedure α} {f : α → Procedure β} {Q : List Exchange → β → Prop}
    (hp : p.Ensures fun talk value => (f value).Ensures fun more => Q (talk ++ more)) :
    (p.bind f).Ensures Q := by
  induction p generalizing Q with
  | done value => exact hp
  | perform effect next ih =>
      intro answer
      exact ih answer (hp answer)

/-- What is ensured holds of the run under any handler, from any state of the world. -/
theorem Ensures.run {p : Procedure α} {Q : List Exchange → α → Prop} (hp : p.Ensures Q)
    (handler : Handler σ) (world : σ) :
    Q (p.conversation handler world) (p.run handler world).1 := by
  induction p generalizing Q world with
  | done value => exact hp
  | perform effect next ih =>
      exact ih (handler effect world).1 (hp (handler effect world).1) (handler effect world).2

end Procedure

namespace Job

variable {α β : Type} {Q : List Exchange → Except Error β → Prop}

/-- Every run of the job ends with a conversation and a result that the property holds of. -/
def Ensures (job : Job α) (Q : List Exchange → Except Error α → Prop) : Prop :=
  Procedure.Ensures job.run Q

theorem Ensures.mono {job : Job α} {Q R : List Exchange → Except Error α → Prop}
    (hjob : job.Ensures Q) (hQR : ∀ talk result, Q talk result → R talk result) :
    job.Ensures R :=
  Procedure.Ensures.mono hjob hQR

/-- A sequence ends with the error of its first job, or goes on with its value. -/
theorem Ensures.bind {job : Job α} {f : α → Job β}
    (hjob : job.Ensures fun talk result =>
      match result with
      | .ok value => (f value).Ensures fun more => Q (talk ++ more)
      | .error e => Q talk (.error e)) :
    (job >>= f).Ensures Q := by
  refine Procedure.Ensures.bind (Procedure.Ensures.mono hjob ?_)
  intro talk result hresult
  cases result with
  | ok value => exact hresult
  | error e =>
      -- the second job is not begun
      show Q (talk ++ []) (.error e)
      rw [List.append_nil]
      exact hresult

theorem ensures_pure {value : β} (hQ : Q [] (.ok value)) : (pure value : Job β).Ensures Q := hQ

theorem ensures_throw {e : Error} (hQ : Q [] (.error e)) : (throw e : Job β).Ensures Q := hQ

/-- A request that ends the job when it is refused. -/
theorem ensures_request_bind {r : Broker.Request} {f : r.Answer → Job β}
    (hrefused : ∀ e, Q [⟨.request r, .error e⟩] (.error e))
    (hanswered : ∀ answer, (f answer).Ensures fun more => Q (⟨.request r, .ok answer⟩ :: more)) :
    (request r >>= f).Ensures Q := by
  refine Ensures.bind ?_
  intro result
  cases result with
  | error e => exact hrefused e
  | ok answer => exact hanswered answer

/-- An effect that always succeeds. -/
theorem ensures_perform_bind {effect : Effect} {f : effect.Answer → Job β}
    (hnext : ∀ answer, (f answer).Ensures fun more => Q (⟨effect, answer⟩ :: more)) :
    (perform effect >>= f).Ensures Q :=
  Ensures.bind hnext

/-- A request the refusal of which is an answer. -/
theorem ensures_attempt_bind {r : Broker.Request} {f : Except Error r.Answer → Job β}
    (hnext : ∀ reply, (f reply).Ensures fun more => Q (⟨.request r, reply⟩ :: more)) :
    (attempt r >>= f).Ensures Q :=
  ensures_perform_bind hnext

/-- A text, the showing of which ends the job when it fails. -/
theorem ensures_write_bind {text : String} {f : Unit → Job β}
    (hfailed : ∀ e, Q [⟨.write text, .error e⟩] (.error e))
    (hshown : (f ()).Ensures fun more => Q (⟨.write text, .ok ()⟩ :: more)) :
    (write text >>= f).Ensures Q := by
  refine Ensures.bind ?_
  intro result
  cases result with
  | error e => exact hfailed e
  | ok _ => exact hshown

theorem ensures_tell_bind {event : Log.Event} {f : Unit → Job β}
    (hnext : (f ()).Ensures fun more => Q (⟨.tell event, ()⟩ :: more)) :
    (tell event >>= f).Ensures Q :=
  ensures_perform_bind fun _ => hnext

theorem ensures_wait_bind {duration : Duration} {f : Unit → Job β}
    (hnext : (f ()).Ensures fun more => Q (⟨.wait duration, ()⟩ :: more)) :
    (wait duration >>= f).Ensures Q :=
  ensures_perform_bind fun _ => hnext

theorem ensures_clock_bind {f : Duration → Job β}
    (hnext : ∀ now, (f now).Ensures fun more => Q (⟨.clock, now⟩ :: more)) :
    (clock >>= f).Ensures Q :=
  ensures_perform_bind hnext

theorem ensures_timeOfDay_bind {f : String → Job β}
    (hnext : ∀ clock, (f clock).Ensures fun more => Q (⟨.timeOfDay, clock⟩ :: more)) :
    (timeOfDay >>= f).Ensures Q :=
  ensures_perform_bind hnext

end Job

end JetStream

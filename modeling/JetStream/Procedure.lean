import JetStream.Broker.Request
import JetStream.Log

/-!
# Procedures

What the tool does is a row of effects on the world: requests to the broker, texts for the operator,
time spent waiting.  A procedure is that row as data, each step of which may depend on the answers
before it; a handler says what the effects do and answers them.
-/

namespace JetStream

/-- Something done to the world, or asked of it. -/
inductive Effect where
  /-- Asks the broker for something. -/
  | request (request : Broker.Request)
  /-- Shows a text to the operator. -/
  | write (text : String)
  /-- Lets time pass. -/
  | wait (duration : Duration)
  /-- Asks how much time has passed. -/
  | clock
  /-- Asks for the time of day. -/
  | timeOfDay
  /-- Tells of an event. -/
  | tell (event : Log.Event)
  deriving DecidableEq

/-- What the world answers. -/
abbrev Effect.Answer : Effect → Type
  | request r => Except Error r.Answer
  | write _ => Except Error Unit
  | wait _ | tell _ => Unit
  | clock => Duration
  | timeOfDay => String

/-- A row of effects that ends with a value. -/
inductive Procedure (α : Type) where
  /-- The end. -/
  | done (value : α)
  /-- An effect, and what follows upon the answer. -/
  | perform (effect : Effect) (next : effect.Answer → Procedure α)

namespace Procedure

variable {α β : Type}

/-- One procedure after another. -/
protected def bind : Procedure α → (α → Procedure β) → Procedure β
  | done value, f => f value
  | perform effect next, f => perform effect fun answer => (next answer).bind f

instance : Monad Procedure where
  pure := done
  bind := Procedure.bind

theorem bind_done (p : Procedure α) : p.bind done = p := by
  induction p with
  | done value => rfl
  | perform effect next ih => exact congrArg (perform effect) (funext ih)

theorem bind_assoc {γ : Type} (p : Procedure α) (f : α → Procedure β) (g : β → Procedure γ) :
    (p.bind f).bind g = p.bind fun value => (f value).bind g := by
  induction p with
  | done value => rfl
  | perform effect next ih => exact congrArg (perform effect) (funext ih)

instance : LawfulMonad Procedure :=
  LawfulMonad.mk' Procedure bind_done (fun _ _ => rfl) bind_assoc

/-- A handler answers effects, and keeps a state of the world. -/
abbrev Handler (σ : Type) := (effect : Effect) → σ → effect.Answer × σ

/-- Runs a procedure in a state of the world. -/
def run {σ : Type} (handler : Handler σ) : Procedure α → σ → α × σ
  | done value, world => (value, world)
  | perform effect next, world =>
      let (answer, world) := handler effect world
      run handler (next answer) world

@[simp] theorem run_done {σ : Type} (handler : Handler σ) (value : α) (world : σ) :
    run handler (done value) world = (value, world) := rfl

@[simp] theorem run_perform {σ : Type} (handler : Handler σ) (effect : Effect)
    (next : effect.Answer → Procedure α) (world : σ) :
    run handler (perform effect next) world =
      run handler (next (handler effect world).1) (handler effect world).2 := rfl

theorem run_bind {σ : Type} (handler : Handler σ) (first : Procedure α) (f : α → Procedure β)
    (world : σ) :
    run handler (first.bind f) world =
      run handler (f (run handler first world).1) (run handler first world).2 := by
  induction first generalizing world with
  | done value => rfl
  | perform effect next ih => exact ih _ _

end Procedure

/-- A procedure that may fail. -/
abbrev Job := ExceptT Error Procedure

namespace Job

variable {α : Type}

/-- The job of a single effect that always succeeds. -/
def perform (effect : Effect) : Job effect.Answer :=
  .mk (.perform effect fun answer => .done (.ok answer))

/-- Asks the broker for something. -/
def request (r : Broker.Request) : Job r.Answer :=
  .mk (.perform (.request r) .done)

/-- Asks the broker for something and takes its refusal for an answer. -/
def attempt (r : Broker.Request) : Job (Except Error r.Answer) :=
  perform (.request r)

/-- Shows a text to the operator. -/
def write (text : String) : Job Unit :=
  .mk (.perform (.write text) .done)

/-- Lets time pass. -/
def wait (duration : Duration) : Job Unit := perform (.wait duration)

/-- How much time has passed. -/
def clock : Job Duration := perform .clock

/-- The time of day. -/
def timeOfDay : Job String := perform .timeOfDay

/-- Tells of an event. -/
def tell (event : Log.Event) : Job Unit := perform (.tell event)

/-- Says what was being done, should the job fail. -/
def inContext (context : String) (job : Job α) : Job α :=
  .mk (job.run.bind fun result => .done (result.mapError (·.inContext context)))

end Job

end JetStream

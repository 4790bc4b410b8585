import JetStream.Procedure

/-!
# Running a job effect by effect

A job under a handler comes to a result, and leaves the world in some state.  The lemmas of this
file take the first effect off a job, so that a run can be followed along the text of the job.
-/

namespace JetStream.Job

variable {α β σ : Type} {handler : Procedure.Handler σ} {world world' : σ}

/-- What a job comes to under a handler, and the world after it. -/
def runIn (handler : Procedure.Handler σ) (job : Job α) (world : σ) : Except Error α × σ :=
  Procedure.run handler job.run world

theorem runIn_bind_of_ok {job : Job α} {f : α → Job β} {value : α}
    (hjob : runIn handler job world = (.ok value, world')) :
    runIn handler (job >>= f) world = runIn handler (f value) world' := by
  unfold runIn at hjob ⊢
  show Procedure.run handler (Procedure.bind job.run _) world = _
  rw [Procedure.run_bind, hjob]
  rfl

theorem runIn_request_bind {r : Broker.Request} {f : r.Answer → Job β} {answer : r.Answer}
    (hanswer : handler (.request r) world = (.ok answer, world')) :
    runIn handler (request r >>= f) world = runIn handler (f answer) world' :=
  runIn_bind_of_ok hanswer

theorem runIn_attempt_bind {r : Broker.Request} {f : Except Error r.Answer → Job β}
    {reply : Except Error r.Answer} (hreply : handler (.request r) world = (reply, world')) :
    runIn handler (attempt r >>= f) world = runIn handler (f reply) world' := by
  show runIn handler (f (handler (.request r) world).1) (handler (.request r) world).2 = _
  rw [hreply]

theorem runIn_write_bind {text : String} {f : Unit → Job β}
    (hshown : handler (.write text) world = (.ok (), world')) :
    runIn handler (write text >>= f) world = runIn handler (f ()) world' :=
  runIn_bind_of_ok hshown

theorem runIn_timeOfDay_bind {f : String → Job β} :
    runIn handler (timeOfDay >>= f) world =
      runIn handler (f (handler .timeOfDay world).1) (handler .timeOfDay world).2 := rfl

theorem runIn_tell_bind {event : Log.Event} {f : Unit → Job β} :
    runIn handler (tell event >>= f) world =
      runIn handler (f ()) (handler (.tell event) world).2 := rfl

theorem runIn_wait_bind {duration : Duration} {f : Unit → Job β} :
    runIn handler (wait duration >>= f) world =
      runIn handler (f ()) (handler (.wait duration) world).2 := rfl

theorem runIn_clock_bind {f : Duration → Job β} :
    runIn handler (clock >>= f) world =
      runIn handler (f (handler .clock world).1) (handler .clock world).2 := rfl

end JetStream.Job

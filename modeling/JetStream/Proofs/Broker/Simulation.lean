import JetStream.Broker.Simulation

/-!
# Requests and waits in a simulation

What becomes of the broker and of the other client's agenda when a procedure asks for something or
lets time pass.
-/

namespace JetStream.Broker.Simulation

variable {w : Simulation} {s' : Memory.State} {pause : Duration}

/-! ## Requests -/

/-- A request that takes no time and makes up no name only has the broker answer it. -/
theorem handle_request {r : Request} {reply : Except Error r.Answer}
    (hanswer : w.broker.answer w.now w.freshName r = (reply, s'))
    (htime : timeTaken (.request r) reply = .zero) (hname : usesName (.request r) = false) :
    ∃ events, handle (.request r) w = (reply, { w with broker := s', events := events }) := by
  have happly : w.broker.apply w.now w.freshName (.request r) = (reply, s') := hanswer
  unfold handle happen
  dsimp only
  rw [happly, hname]
  dsimp only
  rw [htime]
  exact ⟨_, rfl⟩

/-! ## Waits, and the other client -/

theorem runAgenda_cons (limit : Option Duration) (operation : Memory.Operation)
    (rest : List (Duration × Memory.Operation)) :
    runAgenda limit ((pause, operation) :: rest) w =
      if limit.any fun time =>
          time.nanoseconds < (w.idleSince + pause.roundUpToMilliseconds).nanoseconds then
        { w with agenda := (pause, operation) :: rest }
      else
        runAgenda limit rest
          { (w.happen operation).2 with
            idleSince := w.idleSince + pause.roundUpToMilliseconds +
              timeTaken operation (w.happen operation).1 } := rfl

theorem pass_broker (duration : Duration) :
    (w.pass duration).broker =
      (runAgenda (some (w.clock + duration.roundUpToMilliseconds)) w.agenda w).broker := by
  unfold pass
  -- the kernel would unfold the time to so many nanoseconds
  generalize w.clock + duration.roundUpToMilliseconds = time
  rfl

theorem pass_agenda (duration : Duration) :
    (w.pass duration).agenda =
      (runAgenda (some (w.clock + duration.roundUpToMilliseconds)) w.agenda w).agenda := by
  unfold pass
  generalize w.clock + duration.roundUpToMilliseconds = time
  rfl

theorem pass_of_alone (halone : w.agenda = []) (duration : Duration) :
    (w.pass duration).broker = w.broker ∧ (w.pass duration).agenda = [] := by
  rw [pass_broker, pass_agenda, halone]
  exact ⟨rfl, rfl⟩

theorem finish_of_alone (halone : w.agenda = []) : w.finish.broker = w.broker := by
  unfold finish
  rw [halone]
  rfl

/-- The other client arranges for failures, and has nothing else to do. -/
theorem runAgenda_failInfo {time : Duration} {failures : Nat}
    (hdue : (w.idleSince + pause.roundUpToMilliseconds).nanoseconds ≤ time.nanoseconds) :
    (runAgenda (some time) [(pause, .failInfo failures)] w).broker =
        { w.broker with failsInfo := failures } ∧
      (runAgenda (some time) [(pause, .failInfo failures)] w).agenda = [] := by
  have hnow : ¬((some time).any fun time => decide (time.nanoseconds <
      (w.idleSince + pause.roundUpToMilliseconds).nanoseconds)) = true := by
    rw [Option.any_some, decide_eq_true_eq]
    exact Nat.not_lt.mpr hdue
  rw [runAgenda_cons, if_neg hnow]
  generalize w.idleSince + pause.roundUpToMilliseconds = due
  exact ⟨rfl, rfl⟩

theorem pass_failInfo {duration : Duration} {failures : Nat}
    (hagenda : w.agenda = [(pause, .failInfo failures)]) (hidle : w.idleSince = w.clock)
    (hpause : pause.roundUpToMilliseconds.nanoseconds ≤
      duration.roundUpToMilliseconds.nanoseconds) :
    (w.pass duration).broker = { w.broker with failsInfo := failures } ∧
      (w.pass duration).agenda = [] := by
  have hdue : (w.idleSince + pause.roundUpToMilliseconds).nanoseconds ≤
      (w.clock + duration.roundUpToMilliseconds).nanoseconds := by
    rw [hidle, Duration.nanoseconds_add, Duration.nanoseconds_add]
    exact Nat.add_le_add_left hpause w.clock.nanoseconds
  rw [pass_broker, pass_agenda, hagenda]
  exact runAgenda_failInfo hdue

end JetStream.Broker.Simulation

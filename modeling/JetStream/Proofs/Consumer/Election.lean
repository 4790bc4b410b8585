import JetStream.Proofs.Broker.Memory.Lookup
import JetStream.Proofs.Broker.Simulation
import JetStream.Proofs.Consumer.StepDown
import JetStream.Proofs.Procedure.Execution

/-!
# A step down at the broker in memory

Two countdowns run against each other when the leader of a consumer steps down: the polls that are
left to who watches, and the requests for the state that are left until another leader shows.  A
request that fails counts for the first and not for the second.  This file says who wins, and what
the last look at the state shows.

## Strategy

`State.Awaits` says all that matters of the broker: which leader a request for the state shows, and
with which request from now on the next leader shows, failing requests included.  Counted in this
way both countdowns go down by one with every request (`Awaits.read`), so the loop of polls finds
the next leader if its number is small enough (`runIn_watch_found`) and does not find it otherwise
(`runIn_watch_missed`).  The last look is one request more.
-/

namespace JetStream

/-! ## Requests for the state, one after another -/

namespace Broker.Memory.State

variable {s : State} {stream consumer leader next : String} {held : HeldConsumer}
  {reads : Option Nat}

/-- Requests for the state of a consumer show a leader or fail, and from the one with this number on
they show the next leader.  Without a number they never do. -/
def Awaits (s : State) (stream consumer leader next : String) (reads : Option Nat) : Prop :=
  ∃ held cluster, s.held? stream consumer = some held ∧ held.info.cluster = some cluster ∧
    cluster.leader = leader ∧ (held.election.isSome → cluster.rotate.leader = next) ∧
    held.election.map (fun polls => s.failsInfo + max polls 1) = reads

/-- A request that is not the one to show the next leader brings that nearer by one. -/
theorem Awaits.read (h : s.Awaits stream consumer leader next reads) (hreads : reads ≠ some 1) :
    ∃ reply s', s.consumerInfo stream consumer = (reply, s') ∧
      (∀ info, reply = .ok info → info.cluster.map (·.leader) = some leader) ∧
      s'.Awaits stream consumer leader next (reads.map (· - 1)) := by
  obtain ⟨held, cluster, hheld, hcluster, hleader, hnext, hcount⟩ := h
  by_cases hfails : 0 < s.failsInfo
  · obtain ⟨e, s', hread, hstreams, hfails'⟩ :=
      consumerInfo_of_fails stream consumer hfails
    have hsilent (info : Consumer.Info) (hok : (.error e : Except Error Consumer.Info) = .ok info) :
        info.cluster.map (·.leader) = some leader := nomatch hok
    refine ⟨_, s', hread, hsilent, held, cluster, ?_, hcluster, hleader, hnext, ?_⟩
    · unfold held?
      rw [hstreams]
      exact hheld
    · rw [← hcount, Option.map_map, hfails']
      refine congrFun (congrArg Option.map (funext fun polls => ?_)) _
      show s.failsInfo - 1 + max polls 1 = s.failsInfo + max polls 1 - 1
      omega
  · have hworks : s.failsInfo = 0 := Nat.eq_zero_of_not_pos hfails
    obtain ⟨s', hread, hheld', hfails'⟩ := consumerInfo_of_held hheld hworks
    rw [hworks] at hcount
    unfold HeldConsumer.poll at hread hheld'
    cases helection : held.election with
    | none =>
        rw [helection] at hread hheld' hcount
        subst hcount
        refine ⟨_, s', hread, ?_, held, cluster, hheld', hcluster, hleader, hnext, ?_⟩
        · rintro info ⟨⟩
          rw [hcluster]
          exact congrArg some hleader
        · rw [helection]
          rfl
    | some polls =>
        rw [helection] at hread hheld' hcount hnext
        subst hcount
        -- the election is not over with this request
        have hpolls : ¬polls ≤ 1 := fun hle => hreads (by simp [Nat.max_eq_right hle])
        dsimp only at hread hheld'
        rw [if_neg hpolls] at hread hheld'
        refine ⟨_, s', hread, ?_, _, cluster, hheld', hcluster, hleader, hnext, ?_⟩
        · rintro info ⟨⟩
          show held.info.cluster.map _ = _
          rw [hcluster]
          exact congrArg some hleader
        · rw [hfails']
          refine congrArg some ?_
          show 0 + max (polls - 1) 1 = 0 + max polls 1 - 1
          omega

/-- The request that shows the next leader. -/
theorem Awaits.read_next (h : s.Awaits stream consumer leader next (some 1)) :
    ∃ info s', s.consumerInfo stream consumer = (.ok info, s') ∧
      info.cluster.map (·.leader) = some next ∧ s'.Awaits stream consumer next next none := by
  obtain ⟨held, cluster, hheld, hcluster, -, hnext, hcount⟩ := h
  obtain ⟨polls, helection, hone⟩ := Option.map_eq_some_iff.mp hcount
  have hworks : s.failsInfo = 0 := by omega
  have hpolls : polls ≤ 1 := by omega
  obtain ⟨s', hread, hheld', -⟩ := consumerInfo_of_held hheld hworks
  have hrotated : cluster.rotate.leader = next := hnext (helection ▸ rfl)
  unfold HeldConsumer.poll at hread hheld'
  rw [helection] at hread hheld'
  dsimp only at hread hheld'
  rw [if_pos hpolls, hcluster] at hread hheld'
  exact ⟨_, s', hread, congrArg some hrotated, _, cluster.rotate, hheld', rfl, hrotated, nofun, rfl⟩

/-- An election that has just begun. -/
theorem awaits_of_stepDown {cluster : Cluster} {peer : Peer} {others : List Peer}
    (hheld : s.held? stream consumer = some held.stepDown) (hidle : held.election = none)
    (hcluster : held.info.cluster = some cluster) (hreplicas : cluster.replicas = peer :: others) :
    s.Awaits stream consumer cluster.leader peer.name
      (held.electAfter.map fun polls => s.failsInfo + max polls 1) := by
  have hnext : cluster.rotate.leader = peer.name := by
    unfold Cluster.rotate
    rw [hreplicas]
  unfold HeldConsumer.stepDown at hheld
  cases hafter : held.electAfter with
  | none =>
      rw [hafter] at hheld
      exact ⟨held, cluster, hheld, hcluster, rfl, fun _ => hnext, hidle ▸ rfl⟩
  | some polls =>
      rw [hafter] at hheld
      exact ⟨_, cluster, hheld, hcluster, rfl, fun _ => hnext, rfl⟩

end Broker.Memory.State

/-! ## The polls -/

namespace Consumer

open Broker (Simulation)
open Broker.Simulation (handle)
open Job (runIn)

variable {h : Handle} {leader next : String} {seen : Sighting} {poll left : Nat} {w : Simulation}
  {reads : Option Nat}

/-- The leader of a sighting is the one of the state in it. -/
def Sighting.Agrees (seen : Sighting) : Prop := leaderShown? (.ok seen.state) = some seen.leader

theorem pollInterval_roundUp : pollInterval.roundUpToMilliseconds = ⟨500_000_000⟩ := rfl

theorem handle_stateRequest {reply : Except Error Info} {s' : Broker.Memory.State}
    (hread : w.broker.consumerInfo h.stream h.name = (reply, s')) :
    ∃ events, handle (.request h.stateRequest) w =
      (reply, { w with broker := s', events := events }) :=
  Broker.Simulation.handle_request (r := .consumerInfo h.stream h.name) hread rfl rfl

/-- A poll that fails or shows the previous leader leaves the rest to the polls after it. -/
theorem runIn_watch_unchanged {reply : Except Error Info} {s' : Broker.Memory.State}
    (hread : (w.pass pollInterval).broker.consumerInfo h.stream h.name = (reply, s'))
    (hreply : ∀ info, reply = .ok info → leaderShown? (.ok info) = some leader)
    (hseen : seen.leader = leader) (hagrees : seen.Agrees) :
    ∃ seen' : Sighting, ∃ events, seen'.leader = leader ∧ seen'.Agrees ∧
      runIn handle (watch h leader poll (left + 1) seen) w =
        runIn handle (watch h leader (poll + 1) left seen')
          { w.pass pollInterval with broker := s', events := events } := by
  obtain ⟨events, hanswer⟩ := handle_stateRequest hread
  cases reply with
  | error e =>
      refine ⟨seen, ?_⟩
      apply Exists.intro
      refine ⟨hseen, hagrees, ?_⟩
      conv => lhs; unfold watch
      refine Job.runIn_wait_bind.trans ?_
      refine (Job.runIn_attempt_bind hanswer).trans ?_
      exact Job.runIn_tell_bind
  | ok info =>
      obtain ⟨cluster, hcluster, hleader⟩ := Option.map_eq_some_iff.mp (hreply info rfl)
      refine ⟨⟨cluster.leader, info⟩, ?_⟩
      apply Exists.intro
      refine ⟨hleader, Option.map_eq_some_iff.mpr ⟨cluster, hcluster, rfl⟩, ?_⟩
      conv => lhs; unfold watch
      refine Job.runIn_wait_bind.trans ?_
      refine (Job.runIn_attempt_bind hanswer).trans ?_
      dsimp only
      rw [hcluster]
      dsimp only
      rw [if_pos hleader]
      exact Job.runIn_tell_bind

/-- A poll that shows another leader is the last. -/
theorem runIn_watch_elected {info : Info} {s' : Broker.Memory.State}
    (hread : (w.pass pollInterval).broker.consumerInfo h.stream h.name = (.ok info, s'))
    (hshown : leaderShown? (.ok info) = some next) (hother : next ≠ leader) :
    ∃ events, runIn handle (watch h leader poll (left + 1) seen) w =
      (.ok (some poll, ⟨next, info⟩),
        { w.pass pollInterval with broker := s', events := events }) := by
  obtain ⟨events, hanswer⟩ := handle_stateRequest hread
  obtain ⟨cluster, hcluster, rfl⟩ := Option.map_eq_some_iff.mp hshown
  apply Exists.intro
  unfold watch
  refine Job.runIn_wait_bind.trans ?_
  refine (Job.runIn_attempt_bind hanswer).trans ?_
  dsimp only
  rw [hcluster]
  dsimp only
  rw [if_neg hother]
  exact Job.runIn_tell_bind

/-- One poll that is not the one to show the next leader, with nobody else at work. -/
theorem runIn_watch_awaits (poll left : Nat) (halone : (w.pass pollInterval).agenda = [])
    (hawaits : (w.pass pollInterval).broker.Awaits h.stream h.name leader next reads)
    (hreads : reads ≠ some 1) (hseen : seen.leader = leader) (hagrees : seen.Agrees) :
    ∃ (seen' : Sighting) (w' : Simulation), seen'.leader = leader ∧ seen'.Agrees ∧
      w'.agenda = [] ∧ w'.broker.Awaits h.stream h.name leader next (reads.map (· - 1)) ∧
      w'.clock.nanoseconds = w.clock.nanoseconds + 500_000_000 ∧
      runIn handle (watch h leader poll (left + 1) seen) w =
        runIn handle (watch h leader (poll + 1) left seen') w' := by
  have hclock : (w.pass pollInterval).clock.nanoseconds = w.clock.nanoseconds + 500_000_000 := by
    show (w.clock + pollInterval.roundUpToMilliseconds).nanoseconds = _
    rw [Duration.nanoseconds_add, pollInterval_roundUp]
  obtain ⟨reply, s', hread, hreply, hafter⟩ := hawaits.read hreads
  obtain ⟨seen', events, hseen', hagrees', hrun⟩ :=
    runIn_watch_unchanged hread hreply hseen hagrees
  exact ⟨seen', { w.pass pollInterval with broker := s', events := events }, hseen', hagrees',
    halone, hafter, hclock, hrun⟩

/-- The polls find the next leader if it shows in time. -/
theorem runIn_watch_found (n poll : Nat) (seen : Sighting)
    (halone : (w.pass pollInterval).agenda = [])
    (hawaits : (w.pass pollInterval).broker.Awaits h.stream h.name leader next (some (n + 1)))
    (hother : next ≠ leader) (hseen : seen.leader = leader) (hagrees : seen.Agrees)
    (hleft : n < left) :
    ∃ state w', runIn handle (watch h leader poll left seen) w =
        (.ok (some (poll + n), ⟨next, state⟩), w') ∧
      leaderShown? (.ok state) = some next ∧
      w'.broker.Awaits h.stream h.name next next none := by
  induction n generalizing w poll seen left with
  | zero =>
      obtain ⟨left, rfl⟩ := Nat.exists_eq_succ_of_ne_zero (Nat.ne_zero_of_lt hleft)
      obtain ⟨info, s', hread, hshown, hafter⟩ := hawaits.read_next
      obtain ⟨events, hrun⟩ := runIn_watch_elected hread hshown hother
      exact ⟨info, _, hrun, hshown, hafter⟩
  | succ n ih =>
      obtain ⟨left, rfl⟩ := Nat.exists_eq_succ_of_ne_zero (Nat.ne_zero_of_lt hleft)
      obtain ⟨seen', w', hseen', hagrees', halone', hafter, -, hrun⟩ :=
        runIn_watch_awaits poll left halone hawaits (by simp) hseen hagrees
      obtain ⟨hbroker, hagenda⟩ := Broker.Simulation.pass_of_alone halone' pollInterval
      rw [← hbroker] at hafter
      rw [hrun]
      have hrest := ih (poll + 1) seen' hagenda hafter hseen' hagrees'
        (Nat.lt_of_succ_lt_succ hleft)
      rwa [Nat.add_assoc, Nat.add_comm 1] at hrest

/-- The polls do not find the next leader if it shows too late, and take half a second each. -/
theorem runIn_watch_missed (poll : Nat) (seen : Sighting)
    (halone : (w.pass pollInterval).agenda = [])
    (hawaits : (w.pass pollInterval).broker.Awaits h.stream h.name leader next reads)
    (hseen : seen.leader = leader) (hagrees : seen.Agrees)
    (hlate : ∀ n, reads = some n → left + 1 < n) :
    ∃ state w', runIn handle (watch h leader poll (left + 1) seen) w =
        (.ok (none, ⟨leader, state⟩), w') ∧
      leaderShown? (.ok state) = some leader ∧
      w'.broker.Awaits h.stream h.name leader next (reads.map (· - (left + 1))) ∧
      w'.clock.nanoseconds = w.clock.nanoseconds + (left + 1) * 500_000_000 := by
  induction left generalizing w poll seen reads with
  | zero =>
      have hreads : reads ≠ some 1 := fun hone => Nat.lt_irrefl _ (hlate 1 hone)
      obtain ⟨⟨_, state⟩, w', rfl, hagrees', -, hafter, hclock, hrun⟩ :=
        runIn_watch_awaits poll 0 halone hawaits hreads hseen hagrees
      exact ⟨state, w', hrun, hagrees', hafter, by omega⟩
  | succ left ih =>
      have hreads : reads ≠ some 1 := fun hone => absurd (hlate 1 hone) (by omega)
      obtain ⟨seen', w', hseen', hagrees', halone', hafter, hclock, hrun⟩ :=
        runIn_watch_awaits poll (left + 1) halone hawaits hreads hseen hagrees
      obtain ⟨hbroker, hagenda⟩ := Broker.Simulation.pass_of_alone halone' pollInterval
      rw [← hbroker] at hafter
      have hlate' (n : Nat) (hn : reads.map (· - 1) = some n) : left + 1 < n := by
        obtain ⟨m, hm, rfl⟩ := Option.map_eq_some_iff.mp hn
        have := hlate m hm
        omega
      obtain ⟨state, w'', hrest, hshown, hawaits', hclock'⟩ :=
        ih (poll + 1) seen' hagenda hafter hseen' hagrees' hlate'
      refine ⟨state, w'', hrun.trans hrest, hshown, ?_, by omega⟩
      rw [Option.map_map] at hawaits'
      have hsub : (fun n => n - (left + 1 + 1)) = (fun n => n - (left + 1)) ∘ (fun n => n - 1) :=
        funext fun n => by show _ = n - 1 - (left + 1); omega
      rw [hsub]
      exact hawaits'

/-! ## The whole of it -/

theorem runIn_lastState (seen : Sighting)
    (hawaits : w.broker.Awaits h.stream h.name leader next reads)
    (hshown : leaderShown? (.ok seen.state) = some leader) :
    ∃ state w', runIn handle (lastState h seen) w = (.ok state, w') ∧
      leaderShown? (.ok state) = some (if reads = some 1 then next else leader) := by
  unfold lastState
  by_cases hreads : reads = some 1
  · subst hreads
    obtain ⟨info, s', hread, hnext, -⟩ := hawaits.read_next
    obtain ⟨events, hanswer⟩ := handle_stateRequest hread
    exact ⟨info, _, Job.runIn_attempt_bind hanswer, hnext⟩
  · rw [if_neg hreads]
    obtain ⟨reply, s', hread, hreply, -⟩ := hawaits.read hreads
    obtain ⟨events, hanswer⟩ := handle_stateRequest hread
    cases reply with
    | error e => exact ⟨seen.state, _, Job.runIn_attempt_bind hanswer, hshown⟩
    | ok info => exact ⟨info, _, Job.runIn_attempt_bind hanswer, hreply info rfl⟩

/-- All that is left of a step down are the polls, what is made of them, and the last state. -/
def LeavesPolls (h : Handle) (leader : String) (info : Info) (w asked : Simulation) : Prop :=
  ∀ found seen outcome state w₁ w₂ w₃,
    runIn handle (watch h leader 1 stepDownPolls ⟨leader, info⟩) asked = (.ok (found, seen), w₁) →
    runIn handle (judge leader w.clock found seen) w₁ = (.ok outcome, w₂) →
    runIn handle (lastState h seen) w₂ = (.ok state, w₃) →
    runIn handle (stepDown h) w = (.ok ⟨outcome, state⟩, w₃)

theorem leavesPolls_of_stepDown {info : Info} {cluster : Cluster} {s₁ s₂ : Broker.Memory.State}
    (hread : w.broker.consumerInfo h.stream h.name = (.ok info, s₁))
    (hcluster : info.cluster = some cluster)
    (hasked : s₁.stepDown h.stream h.name = (.ok (), s₂)) :
    ∃ events, LeavesPolls h cluster.leader info w { w with broker := s₂, events := events } := by
  obtain ⟨events, hanswer⟩ := handle_stateRequest hread
  obtain ⟨events', hdone⟩ := Broker.Simulation.handle_request
    (w := { w with broker := s₁, events := events ++ [stepDownEvent h cluster] })
    (r := .stepDown h.stream h.name) hasked rfl rfl
  refine ⟨events', ?_⟩
  intro found seen outcome state w₁ w₂ w₃ hwatch hjudge hlast
  unfold stepDown
  refine (Job.runIn_request_bind hanswer).trans ?_
  dsimp only
  rw [hcluster]
  dsimp only
  refine Job.runIn_tell_bind.trans ?_
  refine (Job.runIn_request_bind hdone).trans ?_
  refine Job.runIn_clock_bind.trans ?_
  refine (Job.runIn_bind_of_ok hwatch).trans ?_
  refine (Job.runIn_bind_of_ok hjudge).trans ?_
  exact Job.runIn_bind_of_ok hlast

theorem roundUp_le_pollInterval {pause : Duration} (hpause : pause.nanoseconds ≤ 500_000_000) :
    pause.roundUpToMilliseconds.nanoseconds ≤ pollInterval.roundUpToMilliseconds.nanoseconds := by
  rw [pollInterval_roundUp]
  unfold Duration.roundUpToMilliseconds Duration.ofMilliseconds
  dsimp only
  omega

/-- Up to the first poll: the leader has been asked to step down, and the failures are yet to be
arranged. -/
theorem exists_leavesPolls {held : Broker.Memory.HeldConsumer} {cluster : Cluster} {peer : Peer}
    {others : List Peer} {pause : Duration} {failures : Nat}
    (hagenda : w.agenda = [(pause, .failInfo failures)]) (hidleSince : w.idleSince = w.clock)
    (hheld : w.broker.held? h.stream h.name = some held) (hidle : held.election = none)
    (hcluster : held.info.cluster = some cluster) (hreplicas : cluster.replicas = peer :: others)
    (hworks : w.broker.failsInfo = 0) (hpause : pause.nanoseconds ≤ 500_000_000) :
    ∃ asked : Simulation, LeavesPolls h cluster.leader held.info w asked ∧
      asked.clock = w.clock ∧ (asked.pass pollInterval).agenda = [] ∧
      (asked.pass pollInterval).broker.Awaits h.stream h.name cluster.leader peer.name
        (held.electAfter.map fun polls => failures + max polls 1) := by
  obtain ⟨s₁, hread, hheld₁, hworks₁⟩ := Broker.Memory.State.consumerInfo_of_held hheld hworks
  have hpoll : held.poll = held := by
    unfold Broker.Memory.HeldConsumer.poll
    rw [hidle]
  rw [hpoll] at hread hheld₁
  obtain ⟨s₂, hasked, hheld₂, -⟩ :=
    Broker.Memory.State.stepDown_of_held hheld₁ (hcluster ▸ rfl)
  obtain ⟨events, hleaves⟩ := leavesPolls_of_stepDown hread hcluster hasked
  -- the failures are arranged while the first poll waits
  obtain ⟨hbroker, halone⟩ := Broker.Simulation.pass_failInfo
    (w := { w with broker := s₂, events := events }) hagenda hidleSince
    (roundUp_le_pollInterval hpause)
  refine ⟨{ w with broker := s₂, events := events }, hleaves, rfl, halone, ?_⟩
  rw [hbroker]
  exact Broker.Memory.State.awaits_of_stepDown hheld₂ hidle hcluster hreplicas

section
variable {asked : Simulation} {info : Info} (hleaves : LeavesPolls h leader info w asked)
  (halone : (asked.pass pollInterval).agenda = []) (hagrees : leaderShown? (.ok info) = some leader)
include hleaves halone hagrees

theorem stepDown_elected {n : Nat}
    (hawaits : (asked.pass pollInterval).broker.Awaits h.stream h.name leader next (some (n + 1)))
    (hother : next ≠ leader) (hn : n < 5) :
    ∃ state w', runIn handle (stepDown h) w = (.ok ⟨.elected leader next (n + 1), state⟩, w') ∧
      leaderShown? (.ok state) = some next := by
  obtain ⟨state, w₁, hwatch, hshown, hafter⟩ :=
    runIn_watch_found n 1 ⟨leader, info⟩ halone hawaits hother rfl hagrees hn
  obtain ⟨last, w₂, hlast, hlastShown⟩ := runIn_lastState ⟨next, state⟩ hafter hshown
  rw [ite_self] at hlastShown
  rw [Nat.add_comm] at hwatch
  exact ⟨last, w₂, hleaves _ _ _ _ _ _ _ hwatch rfl hlast, hlastShown⟩

theorem stepDown_unchanged
    (hawaits : (asked.pass pollInterval).broker.Awaits h.stream h.name leader next reads)
    (hlate : ∀ n, reads = some n → 5 < n) (hclock : asked.clock = w.clock) :
    ∃ state w', runIn handle (stepDown h) w =
        (.ok ⟨.unchanged leader (.ofMilliseconds 2500), state⟩, w') ∧
      leaderShown? (.ok state) = some (if reads = some 6 then next else leader) := by
  obtain ⟨state, w₁, hwatch, hshown, hafter, helapsed⟩ :=
    runIn_watch_missed 1 ⟨leader, info⟩ halone hawaits rfl hagrees hlate
  have hjudge : ∃ events, runIn handle (judge leader w.clock none ⟨leader, state⟩) w₁ =
      (.ok (.unchanged leader (.ofMilliseconds 2500)), { w₁ with events := events }) := by
    have hdifference : (⟨w₁.clock.nanoseconds - w.clock.nanoseconds⟩ : Duration) =
        .ofMilliseconds 2500 := by
      rw [helapsed, hclock, Nat.add_sub_cancel_left]
      rfl
    rw [← hdifference]
    exact ⟨_, rfl⟩
  obtain ⟨events, hjudge⟩ := hjudge
  obtain ⟨last, w₂, hlast, hlastShown⟩ := runIn_lastState
    (w := { w₁ with events := events }) ⟨leader, state⟩ hafter hshown
  -- the sixth request is the one after the polls
  have hsix : reads.map (· - (4 + 1)) = some 1 ↔ reads = some 6 := by
    cases hreads : reads with
    | none => exact iff_of_false nofun nofun
    | some n =>
        have := hlate n hreads
        rw [Option.map_some, Option.some_inj, Option.some_inj]
        omega
  simp only [hsix] at hlastShown
  exact ⟨last, w₂, hleaves _ _ _ _ _ _ _ hwatch hjudge hlast, hlastShown⟩

end

/-- The leader of a consumer of the broker in memory steps down, and before the first poll another
client arranges for failures.  Counted from there, one request for the state is the first to show
the next leader: the polls are the first five, and the last look at the state is the one after
them. -/
theorem stepDown_simulated (h : Handle) (w : Simulation) (pause : Duration) (failures : Nat)
    {held : Broker.Memory.HeldConsumer} {cluster : Cluster} {peer : Peer} {others : List Peer}
    (hheld : w.broker.held? h.stream h.name = some held) (hidle : held.election = none)
    (hcluster : held.info.cluster = some cluster) (hreplicas : cluster.replicas = peer :: others)
    (hother : peer.name ≠ cluster.leader) (hworks : w.broker.failsInfo = 0)
    (hpause : pause.nanoseconds ≤ 500_000_000) :
    let needed := held.electAfter.map fun polls => failures + max polls 1
    ∃ report final,
      (w.run [(pause, .failInfo failures)] (stepDown h).run).1 = .ok report ∧
      report.outcome =
        (match needed.filter (· ≤ 5) with
          | some polls => .elected cluster.leader peer.name polls
          | none => .unchanged cluster.leader (.ofMilliseconds 2500)) ∧
      report.state.cluster = some final ∧
      (final.leader ≠ report.outcome.leader ↔ needed = some 6) := by
  intro needed
  obtain ⟨asked, hleaves, hclock, halone, hawaits⟩ := exists_leavesPolls
    (w := { w with
      agenda := [(pause, .failInfo failures)], idleSince := w.clock, output := "", events := [] })
    rfl rfl hheld hidle hcluster hreplicas hworks hpause
  have hagrees : leaderShown? (.ok held.info) = some cluster.leader :=
    Option.map_eq_some_iff.mpr ⟨cluster, hcluster, rfl⟩
  change (asked.pass pollInterval).broker.Awaits _ _ _ _ needed at hawaits
  by_cases hfound : ∃ polls < 5, needed = some (polls + 1)
  · obtain ⟨polls, hpolls, hneeded⟩ := hfound
    rw [hneeded] at hawaits ⊢
    obtain ⟨state, w', hrun, hshown⟩ :=
      stepDown_elected hleaves halone hagrees hawaits hother hpolls
    obtain ⟨final, hfinal, hleader⟩ := Option.map_eq_some_iff.mp hshown
    refine ⟨_, final, congrArg Prod.fst hrun, ?_, hfinal, ?_⟩
    · rw [Option.filter_some, if_pos (decide_eq_true (Nat.succ_le_of_lt hpolls))]
    · refine iff_of_false (fun hne => hne hleader) ?_
      intro hsix
      have := Option.some.inj hsix
      omega
  · have hlate (n : Nat) (hn : needed = some n) : 5 < n := by
      obtain ⟨polls, -, hsum⟩ := Option.map_eq_some_iff.mp hn
      refine Nat.lt_of_not_le fun hle => hfound ⟨n - 1, by omega, ?_⟩
      rw [hn, Nat.sub_add_cancel (by omega)]
    obtain ⟨state, w', hrun, hshown⟩ :=
      stepDown_unchanged hleaves halone hagrees hawaits hlate hclock
    obtain ⟨final, hfinal, hleader⟩ := Option.map_eq_some_iff.mp hshown
    refine ⟨_, final, congrArg Prod.fst hrun, ?_, hfinal, ?_⟩
    · have hnone : needed.filter (· ≤ 5) = none := by
        refine Option.filter_eq_none_iff.mpr fun n hn => ?_
        rw [decide_eq_true_eq]
        exact Nat.not_le_of_lt (hlate n hn)
      rw [hnone]
    · rw [hleader]
      by_cases hsix : needed = some 6
      · rw [if_pos hsix]
        exact iff_of_true hother hsix
      · rw [if_neg hsix]
        exact iff_of_false (fun hne => hne rfl) hsix

/-- Four failures and an election of two requests: one request too many for the polls. -/
theorem stepDown_simulated_late :
    let s := ({} : Broker.Memory.State).run
      [⟨.epoch, "", .addStream "S" ["a"]⟩,
       ⟨.epoch, "", .request (.createConsumer "S" { durableName := some "D" })⟩,
       ⟨.epoch, "", .setCluster "S" "D" ⟨none, "L", [⟨"R", true, .zero⟩, ⟨"Q", true, .zero⟩]⟩⟩,
       ⟨.epoch, "", .electAfter "S" "D" (some 2)⟩]
    ∃ report final,
      (({ broker := s, now := .epoch } : Simulation).run [(.ofMilliseconds 10, .failInfo 4)]
        (stepDown ⟨"S", "D", {}⟩).run).1 = .ok report ∧
      report.outcome = .unchanged "L" (.ofMilliseconds 2500) ∧
      report.state.cluster = some final ∧ final.leader ≠ "L" := by
  intro s
  obtain ⟨held, hheld, hidle, hcluster, hafter⟩ : ∃ held, s.held? "S" "D" = some held ∧
      held.election = none ∧
      held.info.cluster = some ⟨none, "L", [⟨"R", true, .zero⟩, ⟨"Q", true, .zero⟩]⟩ ∧
      held.electAfter = some 2 := ⟨_, rfl, rfl, rfl, rfl⟩
  obtain ⟨report, final, hrun, houtcome, hfinal, hother⟩ := stepDown_simulated ⟨"S", "D", {}⟩
    { broker := s, now := .epoch } (.ofMilliseconds 10) 4 hheld hidle hcluster rfl (by decide) rfl
    (by decide)
  rw [hafter] at houtcome hother
  rw [houtcome] at hother
  exact ⟨report, final, hrun, houtcome, hfinal, hother.mpr rfl⟩

end Consumer

end JetStream

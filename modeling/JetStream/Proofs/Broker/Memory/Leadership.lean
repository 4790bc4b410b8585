import JetStream.Proofs.Broker.Memory.Isolation
import Mathlib.Data.List.Induction

/-!
# Who holds a consumer

The leader of a consumer does not change by itself.  It has to be asked to step down, and then the
next replica takes its place as soon as the state was shown so many times; the old leader becomes
the last replica, so no server is lost.  Nothing else that happens to the broker brings this nearer
or calls it off.

## Strategy

`Turns` says what a step can be to an election: it begins one, it shows the state, it sets the
cluster, or it does nothing.  One countdown belongs to the state of the broker, and what it stands
for lies in the past: `LastElection` looks at the steps since the last election began, and counts
those that showed the state.  That the two agree is `election_iff`, by induction on the steps from
the last one back.
-/

namespace JetStream

/-! ## The servers of a cluster -/

namespace Cluster

/-- The clusters have the same servers, and where there is but one it is still the leader. -/
structure HasPeersOf (c c' : Cluster) : Prop where
  perm : c'.peerNames.Perm c.peerNames
  eq_of_alone : c.replicas = [] → c' = c

variable {c c' c'' : Cluster}

theorem HasPeersOf.refl (c : Cluster) : c.HasPeersOf c :=
  ⟨.refl _, fun _ => rfl⟩

theorem HasPeersOf.trans (h : c.HasPeersOf c') (h' : c'.HasPeersOf c'') : c.HasPeersOf c'' where
  perm := h'.perm.trans h.perm
  eq_of_alone := by
    intro halone
    have hsame := h.eq_of_alone halone
    exact (h'.eq_of_alone (hsame ▸ halone)).trans hsame

/-- The leader goes to the end of the replicas, so all are still there. -/
theorem hasPeersOf_rotate (c : Cluster) : c.HasPeersOf c.rotate := by
  obtain ⟨name, leader, replicas⟩ := c
  cases replicas with
  | nil => exact .refl _
  | cons next others =>
      refine ⟨?_, nofun⟩
      show (next.name :: (others ++ [(⟨leader, true, .zero⟩ : Peer)]).map (·.name)).Perm
        (leader :: next.name :: others.map (·.name))
      rw [List.map_append, List.map_singleton]
      exact ((List.perm_append_singleton leader _).cons next.name).trans (.swap ..)

theorem rel_refl (c : Option Cluster) : Option.Rel HasPeersOf c c := by
  cases c with
  | none => exact .none
  | some c => exact .some (.refl c)

theorem rel_trans {c c' c'' : Option Cluster} (h : Option.Rel HasPeersOf c c')
    (h' : Option.Rel HasPeersOf c' c'') : Option.Rel HasPeersOf c c'' := by
  cases h with
  | none => exact h'
  | some hpeers =>
      cases h' with
      | some hpeers' => exact .some (hpeers.trans hpeers')

theorem rel_rotate (c : Option Cluster) : Option.Rel HasPeersOf c (c.map rotate) := by
  cases c with
  | none => exact .none
  | some c => exact .some (hasPeersOf_rotate c)

end Cluster

namespace Broker.Memory

/-! ## What a step is to an election -/

/-- The step sets the cluster of a consumer. -/
def Step.SetsCluster (step : Step) (stream consumer : String) : Prop :=
  ∃ cluster, step.operation = .setCluster stream consumer cluster

namespace State

/-- The states of a consumer that a step shows; a request that fails shows none. -/
def shownOf (stream consumer : String) (s : State) (step : Step) : List Consumer.Info :=
  match step.operation with
  | .request (.consumerInfo name other) =>
      if name = stream ∧ other = consumer then (s.consumerInfo name other).1.toOption.toList else []
  | _ => []

/-- The elections over a consumer that a step begins, each with the number of states that are shown
until it ends.  The leader has to accept that it is to step down. -/
def electionsOf (stream consumer : String) (s : State) (step : Step) : List Nat :=
  match step.operation with
  | .request (.stepDown name other) =>
      if name = stream ∧ other = consumer then
        ((s.stepDown name other).1.toOption.bind fun _ =>
          (s.held? name other).bind (·.electAfter)).toList
      else []
  | _ => []

/-- What a step is to the cluster of a consumer and to an election over it. -/
inductive Turns (s : State) (step : Step) (stream consumer : String) (held held' : HeldConsumer) :
    Prop where
  | begins (polls : Nat) (hbegun : s.electionsOf stream consumer step = [polls])
      (hshown : s.shownOf stream consumer step = [])
      (hcluster : held'.info.cluster = held.info.cluster) (helection : held'.election = some polls)
  | shows (info : Consumer.Info) (hbegun : s.electionsOf stream consumer step = [])
      (hshown : s.shownOf stream consumer step = [info])
      (hcluster : held'.info.cluster = held.poll.info.cluster)
      (helection : held'.election = held.poll.election)
  | sets (hsets : step.SetsCluster stream consumer)
      (hbegun : s.electionsOf stream consumer step = [])
      (hshown : s.shownOf stream consumer step = []) (helection : held'.election = held.election)
  | quiet (hbegun : s.electionsOf stream consumer step = [])
      (hshown : s.shownOf stream consumer step = [])
      (hcluster : held'.info.cluster = held.info.cluster)
      (helection : held'.election = held.election)

variable {s : State} {step : Step} {stream consumer : String} {held : HeldConsumer}

/-- Nothing is shown of a consumer, and no election begun over it, by a step about others. -/
theorem nothing_of_not_concerns (hother : ¬step.Concerns s stream consumer) :
    s.electionsOf stream consumer step = [] ∧ s.shownOf stream consumer step = [] := by
  obtain ⟨now, freshName, operation⟩ := step
  unfold electionsOf shownOf
  cases operation with
  | request r =>
      cases r with
      | consumerInfo name other => exact ⟨rfl, if_neg (ne_of_named_ne hother)⟩
      | stepDown name other => exact ⟨if_neg (ne_of_named_ne hother), rfl⟩
      | _ => exact ⟨rfl, rfl⟩
  | _ => exact ⟨rfl, rfl⟩

theorem turns_consumerInfo {now : Instant} {freshName : String}
    (hheld : s.held? stream consumer = some held) :
    let step : Step := ⟨now, freshName, .request (.consumerInfo stream consumer)⟩
    ∃ held', (s.after step).held? stream consumer = some held' ∧
      s.Turns step stream consumer held held' := by
  intro step
  have hshown : s.shownOf stream consumer step =
      (s.consumerInfo stream consumer).1.toOption.toList := if_pos ⟨rfl, rfl⟩
  by_cases hfails : 0 < s.failsInfo
  · obtain ⟨e, s', hread, hstreams, -⟩ := consumerInfo_of_fails stream consumer hfails
    have hafter : (s.after step).held? stream consumer = some held := by
      show (s.consumerInfo stream consumer).2.held? stream consumer = some held
      rw [hread]
      unfold held?
      rw [hstreams]
      exact hheld
    rw [hread] at hshown
    exact ⟨held, hafter, .quiet rfl hshown rfl rfl⟩
  · obtain ⟨s', hread, hheld', -⟩ := consumerInfo_of_held hheld (Nat.eq_zero_of_not_pos hfails)
    have hafter : (s.after step).held? stream consumer = some held.poll := by
      show (s.consumerInfo stream consumer).2.held? stream consumer = some held.poll
      rw [hread]
      exact hheld'
    rw [hread] at hshown
    exact ⟨held.poll, hafter, .shows held.poll.info rfl hshown rfl rfl⟩

theorem turns_stepDown {now : Instant} {freshName : String}
    (hheld : s.held? stream consumer = some held) :
    let step : Step := ⟨now, freshName, .request (.stepDown stream consumer)⟩
    ∃ held', (s.after step).held? stream consumer = some held' ∧
      s.Turns step stream consumer held held' := by
  intro step
  have hbegun : s.electionsOf stream consumer step =
      ((s.stepDown stream consumer).1.toOption.bind fun _ =>
        (s.held? stream consumer).bind (·.electAfter)).toList := if_pos ⟨rfl, rfl⟩
  cases hcluster : held.info.cluster with
  | none =>
      have hrefused :
          (s.stepDown stream consumer).1 = .error (.broker "consumer is not clustered") := by
        unfold State.stepDown
        refine change_fst_eq_error_iff.mpr (.inr ⟨held, hheld, ?_⟩)
        rw [hcluster]
        rfl
      have hafter : (s.after step).held? stream consumer = some held := by
        refine (held?_stepDown stream consumer).trans ?_
        rw [hheld, Option.map_some, hcluster]
        exact congrArg some (if_neg fun h => nomatch h.2)
      rw [hrefused] at hbegun
      exact ⟨held, hafter, .quiet hbegun rfl rfl rfl⟩
  | some cluster =>
      obtain ⟨s', hdown, hheld', -⟩ := stepDown_of_held hheld (hcluster ▸ rfl)
      have hafter : (s.after step).held? stream consumer = some held.stepDown := by
        show (s.stepDown stream consumer).2.held? stream consumer = some held.stepDown
        rw [hdown]
        exact hheld'
      rw [hdown, hheld] at hbegun
      have hbegun : s.electionsOf stream consumer step = held.electAfter.toList := hbegun
      refine ⟨held.stepDown, hafter, ?_⟩
      unfold HeldConsumer.stepDown
      cases helect : held.electAfter with
      | none =>
          rw [helect] at hbegun
          exact .quiet hbegun rfl rfl rfl
      | some polls =>
          rw [helect] at hbegun
          exact .begins polls hbegun rfl rfl rfl

/-- Messages that are handed out or acknowledged have nothing to do with it. -/
theorem turns_of_exchange (hheld : s.held? stream consumer = some held)
    (hexchange : step.ExchangesMessages) (hbegun : s.electionsOf stream consumer step = [])
    (hshown : s.shownOf stream consumer step = []) :
    ∃ held', (s.after step).held? stream consumer = some held' ∧
      s.Turns step stream consumer held held' := by
  have hrel := onlyDelivers_after (s := s) hexchange stream consumer
  rw [hheld] at hrel
  cases hafter : (s.after step).held? stream consumer with
  | none =>
      rw [hafter] at hrel
      exact nomatch hrel
  | some held' =>
      rw [hafter] at hrel
      obtain ⟨_, _, _, _, _, _, rfl⟩ : held.OnlyDelivers held' := by
        cases hrel with
        | some honly => exact honly
      exact ⟨_, rfl, .quiet hbegun hshown rfl rfl⟩

theorem turns_after (h : s.Coherent) (hheld : s.held? stream consumer = some held)
    (hends : ¬step.ends stream consumer) :
    ∃ held', (s.after step).held? stream consumer = some held' ∧
      s.Turns step stream consumer held held' := by
  by_cases hconcerns : step.Concerns s stream consumer
  case neg =>
    obtain ⟨hbegun, hshown⟩ := nothing_of_not_concerns hconcerns
    exact ⟨held, (held?_of_not_concerns h hconcerns).trans hheld, .quiet hbegun hshown rfl rfl⟩
  obtain ⟨now, freshName, operation⟩ := step
  cases operation with
  | addStream name subjects => exact absurd hconcerns hends
  | publish subject headers payload =>
      refine ⟨_, (held?_publish h now subject headers payload).trans
        (congrArg (Option.map _) hheld), ?_⟩
      dsimp only
      split
      next => exact .quiet rfl rfl rfl rfl
      next => exact .quiet rfl rfl rfl rfl
  | setCluster name other cluster =>
      cases hconcerns
      refine ⟨{ held with info := { held.info with cluster := some cluster } }, ?_,
        .sets ⟨cluster, rfl⟩ rfl rfl rfl⟩
      refine (held?_change stream consumer _).trans ?_
      rw [hheld, Option.map_some, if_pos ⟨rfl, rfl⟩]
      rfl
  | electAfter name other polls =>
      cases hconcerns
      refine ⟨{ held with electAfter := polls }, ?_, .quiet rfl rfl rfl rfl⟩
      refine (held?_change stream consumer _).trans ?_
      rw [hheld, Option.map_some, if_pos ⟨rfl, rfl⟩]
      rfl
  | request r =>
      cases r with
      | consumerInfo name other =>
          cases hconcerns
          exact turns_consumerInfo hheld
      | createConsumer name config =>
          refine ⟨held, ?_, .quiet rfl rfl rfl rfl⟩
          refine (held?_createConsumer_or now freshName name config).trans ?_
          rw [hheld, Option.some_or, ite_self]
      | deleteConsumer name other =>
          cases hconcerns
          exact absurd ⟨rfl, rfl⟩ hends
      | stepDown name other =>
          cases hconcerns
          exact turns_stepDown hheld
      | fetchNext name other expiry => exact turns_of_exchange hheld trivial rfl rfl
      | subscribe subject => exact turns_of_exchange hheld trivial rfl rfl
      | respondEmpty message => exact turns_of_exchange hheld trivial rfl rfl
      | _ => exact nomatch hconcerns
  | _ => exact nomatch hconcerns

end State

/-! ## The countdown -/

namespace HeldConsumer

/-- How many states are to be shown until the election ends. -/
def readsLeft (held : HeldConsumer) : Option Nat :=
  held.election.map (max · 1)

theorem readsLeft_poll (held : HeldConsumer) (left : Nat) :
    held.poll.readsLeft = some left ↔ 0 < left ∧ held.readsLeft = some (left + 1) := by
  unfold readsLeft HeldConsumer.poll
  cases helection : held.election with
  | none => simp [helection]
  | some polls =>
      dsimp only
      split
      next hlast =>
        simp only [Option.map_none, Option.map_some, Option.some.injEq]
        constructor
        · exact nofun
        · rintro ⟨hpositive, hleft⟩
          omega
      next hmore =>
        simp only [Option.map_some, Option.some.injEq]
        omega

theorem cluster_poll (held : HeldConsumer) :
    held.poll.info.cluster =
      if held.readsLeft = some 1 then held.info.cluster.map Cluster.rotate
      else held.info.cluster := by
  unfold readsLeft HeldConsumer.poll
  cases helection : held.election with
  | none => rfl
  | some polls =>
      dsimp only
      split
      next hlast =>
        have hone : max polls 1 = 1 := by omega
        rw [Option.map_some, hone, if_pos rfl]
      next hmore =>
        have hne : max polls 1 ≠ 1 := by omega
        rw [Option.map_some, if_neg fun heq => hne (Option.some.inj heq)]

theorem readsLeft_pos {held : HeldConsumer} {left : Nat} (h : held.readsLeft = some left) :
    0 < left := by
  obtain ⟨polls, -, rfl⟩ := Option.map_eq_some_iff.mp h
  omega

/-- To show the state once, and then so many times more. -/
theorem turned_poll (held : HeldConsumer) (reads : Nat) :
    (if held.poll.readsLeft.any (· ≤ reads) then held.poll.info.cluster.map Cluster.rotate
      else held.poll.info.cluster) =
    if held.readsLeft.any (· ≤ reads + 1) then held.info.cluster.map Cluster.rotate
    else held.info.cluster := by
  rw [cluster_poll]
  cases hpoll : held.poll.readsLeft with
  | some left =>
      obtain ⟨hpositive, hleft⟩ := (held.readsLeft_poll left).mp hpoll
      have hne : left ≠ 0 := Nat.ne_of_gt hpositive
      simp [hleft, hne]
  | none =>
      cases hleft : held.readsLeft with
      | none => rfl
      | some left =>
          have hlast : left = 1 := by
            refine Decidable.byContradiction fun hmore => ?_
            have hpositive := readsLeft_pos hleft
            have hpoll' := (held.readsLeft_poll (left - 1)).mpr
              ⟨by omega, hleft.trans (congrArg some (by omega))⟩
            exact nomatch hpoll.symm.trans hpoll'
          subst hlast
          simp

end HeldConsumer

namespace State

variable {s : State} {before : List Step} {step : Step} {stream consumer : String}
  {held : HeldConsumer} {polls reads : Nat}

/-- The last election over a consumer began with a number of states to be shown, and so many were
shown since.  The consumer was there all the time. -/
def LastElection (before : List Step) (stream consumer : String) (polls reads : Nat) : Prop :=
  ∃ earlier down later, before = earlier ++ down :: later ∧
    (({} : State).run earlier).electionsOf stream consumer down = [polls] ∧
    (∀ step ∈ later, ¬step.ends stream consumer) ∧
    ((({} : State).run earlier).after down).history (electionsOf stream consumer) later = [] ∧
    (((({} : State).run earlier).after down).history (shownOf stream consumer) later).length = reads

/-- A step begins the last election, or it comes after it. -/
theorem lastElection_concat :
    LastElection (before ++ [step]) stream consumer polls reads ↔
      ((({} : State).run before).electionsOf stream consumer step = [polls] ∧ reads = 0) ∨
      (∃ earlier, LastElection before stream consumer polls earlier ∧
        (({} : State).run before).electionsOf stream consumer step = [] ∧
        ¬step.ends stream consumer ∧
        reads = earlier + ((({} : State).run before).shownOf stream consumer step).length) := by
  constructor
  · rintro ⟨earlier, down, later, hsteps, hbegun, hkept, hnone, hreads⟩
    cases later using List.reverseRecOn with
    | nil =>
        obtain ⟨rfl, hdown⟩ := List.append_inj' hsteps rfl
        cases hdown
        exact .inl ⟨hbegun, hreads.symm⟩
    | append_singleton later last =>
        have hsteps : before ++ [step] = (earlier ++ down :: later) ++ [last] := by
          rw [hsteps, List.append_assoc]
          rfl
        obtain ⟨rfl, hlast⟩ := List.append_inj' hsteps rfl
        cases hlast
        rw [history_concat, ← run_append_cons, List.append_eq_nil_iff] at hnone
        rw [history_concat, ← run_append_cons, List.length_append] at hreads
        refine .inr ⟨_, ⟨earlier, down, later, rfl, hbegun, ?_, hnone.1, rfl⟩, hnone.2, ?_,
          hreads.symm⟩
        · exact fun step hstep => hkept step (List.mem_append_left _ hstep)
        · exact hkept step (List.mem_append_right _ (List.mem_singleton_self step))
  · rintro (⟨hbegun, rfl⟩ | ⟨_, hlast, hnone', hends, rfl⟩)
    · exact ⟨before, step, [], rfl, hbegun, List.forall_mem_nil _, rfl, rfl⟩
    · obtain ⟨earlier, down, later, rfl, hbegun, hkept, hnone, rfl⟩ := hlast
      refine ⟨earlier, down, later ++ [step], ?_, hbegun, ?_, ?_, ?_⟩
      · rw [List.append_assoc]
        rfl
      · intro other hother
        rcases List.mem_append.mp hother with hlater | hstep
        · exact hkept other hlater
        · rw [List.mem_singleton.mp hstep]
          exact hends
      · rw [history_concat, ← run_append_cons, hnone, hnone']
        rfl
      · rw [history_concat, ← run_append_cons, List.length_append]

theorem exists_held?_of_electionsOf (hbegun : s.electionsOf stream consumer step = [polls]) :
    (∃ held, s.held? stream consumer = some held) ∧ ¬step.ends stream consumer := by
  obtain ⟨now, freshName, operation⟩ := step
  unfold electionsOf at hbegun
  dsimp only at hbegun
  split at hbegun
  next name other =>
    split at hbegun
    next hsame =>
      obtain ⟨rfl, rfl⟩ := hsame
      refine ⟨?_, id⟩
      cases hheld : s.held? name other with
      | none =>
          rw [hheld] at hbegun
          simp at hbegun
      | some held => exact ⟨held, rfl⟩
    next => exact nomatch hbegun
  next => exact nomatch hbegun

theorem LastElection.exists_held? (h : LastElection before stream consumer polls reads) :
    ∃ held, (({} : State).run before).held? stream consumer = some held := by
  obtain ⟨earlier, down, later, rfl, hbegun, hkept, -, -⟩ := h
  obtain ⟨⟨held, hheld⟩, hends⟩ := exists_held?_of_electionsOf hbegun
  have hcoherent := coherent_run earlier
  obtain ⟨held₁, hheld₁, -⟩ := keeps_after hcoherent hheld down hends
  obtain ⟨held₂, hheld₂, -⟩ := keeps_run (hcoherent.after down) hheld₁ later hkept
  rw [run_append_cons]
  exact ⟨held₂, hheld₂⟩

/-- A consumer that was not there is a new one, and there is no election over it. -/
theorem election_of_absent (hs : s.streams.Ascending) (habsent : s.held? stream consumer = none)
    (hheld : (s.after step).held? stream consumer = some held) : held.election = none := by
  obtain ⟨heldStream', hstream', hconsumer'⟩ := held?_eq_some_iff.mp hheld
  rcases streams_after hs step with ⟨name, subjects, -, hinsert⟩ | hfollows
  · rw [hinsert, NameMap.get?_insert] at hstream'
    split at hstream'
    next =>
      -- a new stream has no consumers
      cases hstream'
      exact nomatch hconsumer'
    next => exact nomatch habsent.symm.trans (held?_eq_some_iff.mpr ⟨_, hstream', hconsumer'⟩)
  · have hahead := hfollows.ahead stream
    rw [hstream'] at hahead
    generalize hbefore : s.streams.get? stream = found at hahead
    cases hahead with
    | stay => exact nomatch habsent.symm.trans (held?_eq_some_iff.mpr ⟨_, hbefore, hconsumer'⟩)
    | change hchange =>
        rcases hchange.consumer hconsumer' with ⟨now, config, -, -, rfl⟩ | ⟨held₁, hheld₁, -⟩
        · rfl
        · exact nomatch habsent.symm.trans (held?_eq_some_iff.mpr ⟨_, hbefore, hheld₁⟩)

theorem held?_of_ends (hends : step.ends stream consumer) :
    (s.after step).held? stream consumer = none := by
  obtain ⟨now, freshName, operation⟩ := step
  cases operation with
  | addStream name subjects => exact (held?_addStream name subjects).trans (if_pos hends)
  | request r =>
      cases r with
      | deleteConsumer name other => exact (held?_deleteConsumer name other).trans (if_pos hends)
      | _ => exact hends.elim
  | _ => exact hends.elim

/-- Since the last election began, all but so many states were shown of those that it takes. -/
def EndsAfter (before : List Step) (stream consumer : String) (left : Nat) : Prop :=
  0 < left ∧ ∃ polls reads, LastElection before stream consumer polls reads ∧
    reads + left = max polls 1

theorem endsAfter_concat {left : Nat} :
    EndsAfter (before ++ [step]) stream consumer left ↔
      (∃ polls, (({} : State).run before).electionsOf stream consumer step = [polls] ∧
        left = max polls 1) ∨
      ((({} : State).run before).electionsOf stream consumer step = [] ∧
        ¬step.ends stream consumer ∧ 0 < left ∧
        EndsAfter before stream consumer
          (left + ((({} : State).run before).shownOf stream consumer step).length)) := by
  unfold EndsAfter
  simp only [lastElection_concat]
  constructor
  · rintro ⟨hleft, polls, reads, ⟨hbegun, rfl⟩ | ⟨earlier, hlast, hbegun, hends, rfl⟩, hsum⟩
    · exact .inl ⟨polls, hbegun, by omega⟩
    · exact .inr ⟨hbegun, hends, hleft, by omega, polls, earlier, hlast, by omega⟩
  · rintro (⟨polls, hbegun, rfl⟩ | ⟨hbegun, hends, hleft, -, polls, earlier, hlast, hsum⟩)
    · exact ⟨by omega, polls, 0, .inl ⟨hbegun, rfl⟩, by omega⟩
    · exact ⟨hleft, polls, _, .inr ⟨earlier, hlast, hbegun, hends, rfl⟩, by omega⟩

theorem endsAfter_concat_of_quiet {left : Nat}
    (hbegun : (({} : State).run before).electionsOf stream consumer step = [])
    (hends : ¬step.ends stream consumer) :
    EndsAfter (before ++ [step]) stream consumer left ↔
      0 < left ∧ EndsAfter before stream consumer
        (left + ((({} : State).run before).shownOf stream consumer step).length) := by
  rw [endsAfter_concat]
  constructor
  · rintro (⟨polls, hbegun', -⟩ | ⟨-, -, hafter⟩)
    · exact nomatch hbegun.symm.trans hbegun'
    · exact hafter
  · exact fun hafter => .inr ⟨hbegun, hends, hafter⟩

/-- What the broker counts down is what is left since the last election began. -/
theorem readsLeft_eq_some_iff (before : List Step) {stream consumer : String} {held : HeldConsumer}
    (hheld : (({} : State).run before).held? stream consumer = some held) (left : Nat) :
    held.readsLeft = some left ↔ EndsAfter before stream consumer left := by
  induction before using List.reverseRecOn generalizing held left with
  | nil => exact nomatch hheld
  | append_singleton before step ih =>
      have h : (({} : State).run before).Coherent := coherent_run before
      rw [run_concat] at hheld
      cases hbefore : (({} : State).run before).held? stream consumer with
      | none =>
          have hnone : held.readsLeft = none :=
            congrArg (Option.map _) (election_of_absent h.ascending hbefore hheld)
          rw [hnone, endsAfter_concat]
          constructor
          · exact nofun
          · rintro (⟨polls, hbegun, -⟩ | ⟨-, -, -, -, polls, reads, hlast, -⟩)
            · obtain ⟨⟨held₀, hheld₀⟩, -⟩ := exists_held?_of_electionsOf hbegun
              exact nomatch hbefore.symm.trans hheld₀
            · obtain ⟨held₀, hheld₀⟩ := hlast.exists_held?
              exact nomatch hbefore.symm.trans hheld₀
      | some held₀ =>
          have hends : ¬step.ends stream consumer := by
            intro hends
            rw [held?_of_ends hends] at hheld
            exact nomatch hheld
          obtain ⟨held', hheld', hturns⟩ := turns_after h hbefore hends
          cases hheld.symm.trans hheld'
          -- the count stays if the step neither begins an election nor shows the state
          have hstays (hbegun : (({} : State).run before).electionsOf stream consumer step = [])
              (hshown : (({} : State).run before).shownOf stream consumer step = [])
              (helection : held.election = held₀.election) :
              held.readsLeft = some left ↔ EndsAfter (before ++ [step]) stream consumer left := by
            have hleft : held.readsLeft = held₀.readsLeft := congrArg (Option.map _) helection
            rw [hleft, ih hbefore, endsAfter_concat_of_quiet hbegun hends, hshown]
            exact ⟨fun hafter => ⟨hafter.1, hafter⟩, And.right⟩
          cases hturns with
          | begins polls hbegun hshown hcluster helection =>
              have hleft : held.readsLeft = some (max polls 1) := congrArg (Option.map _) helection
              rw [hleft, endsAfter_concat, hbegun]
              simp [eq_comm]
          | shows info hbegun hshown hcluster helection =>
              have hleft : held.readsLeft = held₀.poll.readsLeft :=
                congrArg (Option.map _) helection
              rw [hleft, held₀.readsLeft_poll, ih hbefore, endsAfter_concat_of_quiet hbegun hends,
                hshown]
              rfl
          | sets hsets hbegun hshown helection => exact hstays hbegun hshown helection
          | quiet hbegun hshown hcluster helection => exact hstays hbegun hshown helection

/-! ## From one leader to the next -/

/-- A step that does not set the cluster turns it only if it shows the state for the last time that
an election takes. -/
theorem cluster_after (before : List Step) {step : Step} {stream consumer : String}
    {held : HeldConsumer}
    (hheld : (({} : State).run before).held? stream consumer = some held)
    (hends : ¬step.ends stream consumer) (hsets : ¬step.SetsCluster stream consumer) :
    ∃ held', ((({} : State).run before).after step).held? stream consumer = some held' ∧
      ((({} : State).run before).shownOf stream consumer step ≠ [] ∧
          EndsAfter before stream consumer 1 →
        held'.info.cluster = held.info.cluster.map Cluster.rotate) ∧
      (¬((({} : State).run before).shownOf stream consumer step ≠ [] ∧
          EndsAfter before stream consumer 1) →
        held'.info.cluster = held.info.cluster) := by
  obtain ⟨held', hheld', hturns⟩ := turns_after (coherent_run before) hheld hends
  refine ⟨held', hheld', ?_⟩
  rw [← readsLeft_eq_some_iff before hheld]
  cases hturns with
  | begins polls hbegun hshown hcluster helection =>
      exact ⟨fun hdue => absurd hshown hdue.1, fun _ => hcluster⟩
  | shows info hbegun hshown hcluster helection =>
      rw [hshown, hcluster, held.cluster_poll]
      refine ⟨fun hdue => if_pos hdue.2, fun hnot => if_neg fun hlast => hnot ⟨?_, hlast⟩⟩
      exact List.cons_ne_nil info []
  | sets hset hbegun hshown helection => exact absurd hset hsets
  | quiet hbegun hshown hcluster helection =>
      exact ⟨fun hdue => absurd hshown hdue.1, fun _ => hcluster⟩

theorem hasPeersOf_after (h : s.Coherent) (hheld : s.held? stream consumer = some held)
    (hends : ¬step.ends stream consumer) (hsets : ¬step.SetsCluster stream consumer) :
    ∃ held', (s.after step).held? stream consumer = some held' ∧
      Option.Rel Cluster.HasPeersOf held.info.cluster held'.info.cluster := by
  obtain ⟨held', hheld', hturns⟩ := turns_after h hheld hends
  refine ⟨held', hheld', ?_⟩
  cases hturns with
  | begins polls hbegun hshown hcluster helection => exact hcluster ▸ Cluster.rel_refl _
  | shows info hbegun hshown hcluster helection =>
      rw [hcluster, held.cluster_poll]
      split
      next => exact Cluster.rel_rotate _
      next => exact Cluster.rel_refl _
  | sets hset hbegun hshown helection => exact absurd hset hsets
  | quiet hbegun hshown hcluster helection => exact hcluster ▸ Cluster.rel_refl _

/-- Steps that leave the cluster to elections keep its servers. -/
theorem hasPeersOf_run (h : s.Coherent) (hheld : s.held? stream consumer = some held)
    (later : List Step)
    (hlater : ∀ step ∈ later, ¬step.ends stream consumer ∧ ¬step.SetsCluster stream consumer) :
    ∃ held', (s.run later).held? stream consumer = some held' ∧
      Option.Rel Cluster.HasPeersOf held.info.cluster held'.info.cluster := by
  induction later generalizing s held with
  | nil => exact ⟨held, hheld, Cluster.rel_refl _⟩
  | cons step later ih =>
      obtain ⟨⟨hends, hsets⟩, hlater⟩ := List.forall_mem_cons.mp hlater
      obtain ⟨held₁, hheld₁, hpeers₁⟩ := hasPeersOf_after h hheld hends hsets
      obtain ⟨held₂, hheld₂, hpeers₂⟩ := ih (h.after step) hheld₁ hlater
      exact ⟨held₂, hheld₂, Cluster.rel_trans hpeers₁ hpeers₂⟩

/-- As long as no other election begins, the cluster turns once, when enough states were shown. -/
theorem cluster_run (h : s.Coherent) (hheld : s.held? stream consumer = some held)
    (later : List Step)
    (hlater : ∀ step ∈ later, ¬step.ends stream consumer ∧ ¬step.SetsCluster stream consumer)
    (hbegun : s.history (electionsOf stream consumer) later = []) :
    ∃ held', (s.run later).held? stream consumer = some held' ∧
      held'.info.cluster =
        if held.readsLeft.any (· ≤ (s.history (shownOf stream consumer) later).length) then
          held.info.cluster.map Cluster.rotate
        else held.info.cluster := by
  induction later generalizing s held with
  | nil =>
      refine ⟨held, hheld, (if_neg ?_).symm⟩
      rw [Option.any_eq_true]
      rintro ⟨left, hleft, hle⟩
      have hpositive := HeldConsumer.readsLeft_pos hleft
      exact absurd (of_decide_eq_true hle) (Nat.not_le.mpr hpositive)
  | cons step later ih =>
      obtain ⟨⟨hends, hsets⟩, hlater⟩ := List.forall_mem_cons.mp hlater
      obtain ⟨hnone, hbegun⟩ := List.append_eq_nil_iff.mp hbegun
      obtain ⟨held₁, hheld₁, hturns⟩ := turns_after h hheld hends
      obtain ⟨held₂, hheld₂, hcluster₂⟩ := ih (h.after step) hheld₁ hlater hbegun
      refine ⟨held₂, hheld₂, hcluster₂.trans ?_⟩
      have hreads : (s.history (shownOf stream consumer) (step :: later)).length =
          (s.shownOf stream consumer step).length +
            ((s.after step).history (shownOf stream consumer) later).length := List.length_append
      rw [hreads]
      cases hturns with
      | begins polls hbegun hshown hcluster helection => exact nomatch hnone.symm.trans hbegun
      | shows info hbegun hshown hcluster helection =>
          have hleft : held₁.readsLeft = held.poll.readsLeft := congrArg (Option.map _) helection
          rw [hleft, hcluster, hshown, List.length_singleton, Nat.add_comm]
          exact held.turned_poll _
      | sets hset hbegun hshown helection => exact absurd hset hsets
      | quiet hbegun hshown hcluster helection =>
          have hleft : held₁.readsLeft = held.readsLeft := congrArg (Option.map _) helection
          rw [hleft, hcluster, hshown, List.length_nil, Nat.zero_add]

/-- Wherever a run has come to, and a consumer is there.  As long as it is and its cluster is not
set, its servers stay the same, and a single one stays the leader.  The next step changes the leader
only if it shows the state, for the last time that the last election takes; and from the beginning
of an election until another one begins, the leader changes once, when the state was shown so many
times, whatever else happens in between. -/
theorem leadership_run (before : List Step) {stream consumer : String} {held : HeldConsumer}
    (hheld : (({} : State).run before).held? stream consumer = some held) :
    let s := ({} : State).run before
    (∀ later : List Step,
      (∀ step ∈ later, ¬step.ends stream consumer ∧ ¬step.SetsCluster stream consumer) →
        ∃ held', (s.run later).held? stream consumer = some held' ∧
          Option.Rel Cluster.HasPeersOf held.info.cluster held'.info.cluster) ∧
    (∀ step : Step, ¬step.ends stream consumer → ¬step.SetsCluster stream consumer →
      ∃ held', (s.after step).held? stream consumer = some held' ∧
        (s.shownOf stream consumer step ≠ [] ∧ EndsAfter before stream consumer 1 →
          held'.info.cluster = held.info.cluster.map Cluster.rotate) ∧
        (¬(s.shownOf stream consumer step ≠ [] ∧ EndsAfter before stream consumer 1) →
          held'.info.cluster = held.info.cluster)) ∧
    ∀ (down : Step) (polls : Nat) (later : List Step),
      s.electionsOf stream consumer down = [polls] →
      (∀ step ∈ later, ¬step.ends stream consumer ∧ ¬step.SetsCluster stream consumer) →
      (s.after down).history (electionsOf stream consumer) later = [] →
        ∃ held', ((s.after down).run later).held? stream consumer = some held' ∧
          held'.info.cluster =
            if ((s.after down).history (shownOf stream consumer) later).length < max polls 1 then
              held.info.cluster
            else held.info.cluster.map Cluster.rotate := by
  intro s
  have h : s.Coherent := coherent_run before
  refine ⟨hasPeersOf_run h hheld, fun step => cluster_after before hheld, ?_⟩
  intro down polls later hbegun hlater hnone
  obtain ⟨-, hends⟩ := exists_held?_of_electionsOf hbegun
  obtain ⟨held₁, hheld₁, hturns⟩ := turns_after h hheld hends
  obtain ⟨hcluster₁, hleft₁⟩ : held₁.info.cluster = held.info.cluster ∧
      held₁.readsLeft = some (max polls 1) := by
    cases hturns with
    | begins polls' hbegun' hshown hcluster helection =>
        cases hbegun.symm.trans hbegun'
        exact ⟨hcluster, congrArg (Option.map _) helection⟩
    | shows info hbegun' => exact nomatch hbegun.symm.trans hbegun'
    | sets hset hbegun' => exact nomatch hbegun.symm.trans hbegun'
    | quiet hbegun' => exact nomatch hbegun.symm.trans hbegun'
  obtain ⟨held₂, hheld₂, hcluster₂⟩ := cluster_run (h.after down) hheld₁ later hlater hnone
  refine ⟨held₂, hheld₂, ?_⟩
  rw [hcluster₂, hcluster₁, hleft₁, Option.any_some, ← ite_not]
  simp only [decide_eq_true_eq, Nat.not_le]

/-- The second state that is shown after the step down shows the next leader; one request more, that
fails, and a message in between make no difference. -/
theorem leadership_run_second :
    let before : List Step :=
      [⟨.epoch, "", .addStream "S" ["a"]⟩,
       ⟨.epoch, "", .request (.createConsumer "S" { durableName := some "D" })⟩,
       ⟨.epoch, "", .setCluster "S" "D" ⟨none, "x", [⟨"y", true, .zero⟩, ⟨"z", true, .zero⟩]⟩⟩,
       ⟨.epoch, "", .electAfter "S" "D" (some 2)⟩]
    let down : Step := ⟨.epoch, "", .request (.stepDown "S" "D")⟩
    let read : Step := ⟨.epoch, "", .request (.consumerInfo "S" "D")⟩
    let later : List Step :=
      [read, ⟨.epoch, "", .publish "a" [] []⟩, ⟨.epoch, "", .failInfo 1⟩, read, read]
    ∃ held, (((({} : State).run before).after down).run later).held? "S" "D" = some held ∧
      held.info.cluster = some ⟨none, "y", [⟨"z", true, .zero⟩, ⟨"x", true, .zero⟩]⟩ := by
  intro before down read later
  obtain ⟨held, hheld, hcluster⟩ : ∃ held, (({} : State).run before).held? "S" "D" = some held ∧
      held.info.cluster = some ⟨none, "x", [⟨"y", true, .zero⟩, ⟨"z", true, .zero⟩]⟩ :=
    ⟨_, rfl, rfl⟩
  have hread : ¬read.ends "S" "D" ∧ ¬read.SetsCluster "S" "D" := ⟨id, fun ⟨_, h⟩ => nomatch h⟩
  have hlater : ∀ step ∈ later, ¬step.ends "S" "D" ∧ ¬step.SetsCluster "S" "D" :=
    List.forall_mem_cons.mpr ⟨hread,
      List.forall_mem_cons.mpr ⟨⟨id, fun ⟨_, h⟩ => nomatch h⟩,
        List.forall_mem_cons.mpr ⟨⟨id, fun ⟨_, h⟩ => nomatch h⟩,
          List.forall_mem_cons.mpr ⟨hread,
            List.forall_mem_cons.mpr ⟨hread, List.forall_mem_nil _⟩⟩⟩⟩⟩
  obtain ⟨-, -, hdown⟩ := leadership_run before hheld
  obtain ⟨held', hheld', hcluster'⟩ := hdown down 2 later rfl hlater rfl
  exact ⟨held', hheld', hcluster'.trans (by rw [hcluster]; rfl)⟩

end State

end Broker.Memory

end JetStream

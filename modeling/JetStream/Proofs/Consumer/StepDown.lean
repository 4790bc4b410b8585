import JetStream.Consumer.StepDown
import JetStream.Proofs.Procedure.Conversation

/-!
# How a step down goes

Whatever the broker replies, a step down is one of five conversations: the state cannot be read, or
shows no cluster, or the request is refused, or another leader is seen in time, or it is not.  This
file says what is done and what is reported in each of them, and that there are no others.

## Strategy

The loop of polls carries what was seen last.  A poll that does not show another leader leaves the
leader of the sighting equal to the previous one, so only the state in it changes; that is the
invariant under which `ensures_watch` is proved, by induction on the polls left.  `Watched` says
what the loop comes to, and `Watched.cons` how one more poll is put in front of it.
-/

namespace JetStream.Consumer

open Job (Ensures)

/-! ## Exchanges of a step down -/

/-- The state is read, with this reply. -/
def Handle.reading (h : Handle) (reply : Except Error Info) : Exchange :=
  ⟨.request h.stateRequest, reply⟩

/-- The leader is asked to step down, with this reply. -/
def Handle.asking (h : Handle) (reply : Except Error Unit) : Exchange :=
  ⟨.request (.stepDown h.stream h.name), reply⟩

/-- A poll waits half a second and then reads the state. -/
def Handle.poll (h : Handle) (reply : Except Error Info) : List Exchange :=
  [⟨.wait (.ofMilliseconds 500), ()⟩, h.reading reply]

/-- The clock is read, and shows this. -/
def clockShows (now : Duration) : Exchange := ⟨.clock, now⟩

/-- The leader that a reply shows, if it shows a cluster at all. -/
def leaderShown? : Except Error Info → Option String
  | .ok state => state.cluster.map (·.leader)
  | .error _ => none

/-- None of the replies shows a leader other than the previous one. -/
def NoneOther (previous : String) (replies : List (Except Error Info)) : Prop :=
  ∀ reply ∈ replies, ∀ leader, leaderShown? reply = some leader → leader = previous

/-- The state in a reply that shows a cluster. -/
def clustered? (reply : Except Error Info) : Option Info :=
  reply.toOption.filter (·.cluster.isSome)

/-- The state of the last poll that showed a cluster, else the state from before the polls. -/
def lastClustered (before : Info) (polls : List (Except Error Info)) : Info :=
  (polls.filterMap clustered?).getLastD before

/-- The ways a step down can go: what is exchanged with the world, and the result. -/
inductive StepDownCourse (h : Handle) : List Exchange → Except Error StepDownReport → Prop where
  /-- The state cannot be read. -/
  | unread (e : Error) : StepDownCourse h [h.reading (.error e)] (.error e)
  /-- The state shows no cluster. -/
  | unclustered (info : Info) (hcluster : info.cluster = none) :
      StepDownCourse h [h.reading (.ok info)] (.error (.notClustered h.stream h.name))
  /-- The request is refused. -/
  | refused (info : Info) (cluster : Cluster) (e : Error) (hcluster : info.cluster = some cluster) :
      StepDownCourse h [h.reading (.ok info), h.asking (.error e)] (.error e)
  /-- Another leader is seen, by a poll that is the first to see one and at most the fifth. -/
  | elected (info : Info) (cluster : Cluster) (started : Duration)
      (polls : List (Except Error Info)) (state : Info) (leader : String)
      (last : Except Error Info)
      (hcluster : info.cluster = some cluster)
      (hpolls : polls.length < 5)
      (hnone : NoneOther cluster.leader polls)
      (hshown : leaderShown? (.ok state) = some leader)
      (hother : leader ≠ cluster.leader) :
      StepDownCourse h
        ([h.reading (.ok info), h.asking (.ok ()), clockShows started] ++
          (polls ++ [Except.ok state]).flatMap h.poll ++ [h.reading last])
        (.ok
          { outcome := .elected cluster.leader leader (polls.length + 1)
            state := last.toOption.getD (lastClustered info (polls ++ [.ok state])) })
  /-- No other leader is seen by five polls. -/
  | unchanged (info : Info) (cluster : Cluster) (started ended : Duration)
      (polls : List (Except Error Info)) (last : Except Error Info)
      (hcluster : info.cluster = some cluster)
      (hpolls : polls.length = 5)
      (hnone : NoneOther cluster.leader polls) :
      StepDownCourse h
        ([h.reading (.ok info), h.asking (.ok ()), clockShows started] ++
          polls.flatMap h.poll ++ [clockShows ended, h.reading last])
        (.ok
          { outcome := .unchanged cluster.leader ⟨ended.nanoseconds - started.nanoseconds⟩
            state := last.toOption.getD (lastClustered info polls) })

/-! ## The polls -/

/-- What watching for another leader comes to, with so many polls left and the next of this
number: what is exchanged with the world, and what the loop returns. -/
inductive Watched (h : Handle) (previous : String) (before : Info) (poll left : Nat) :
    List Exchange → Except Error (Option Nat × Sighting) → Prop where
  | found (polls : List (Except Error Info)) (state : Info) (leader : String)
      (hpolls : polls.length < left) (hnone : NoneOther previous polls)
      (hshown : leaderShown? (.ok state) = some leader) (hother : leader ≠ previous) :
      Watched h previous before poll left ((polls ++ [Except.ok state]).flatMap h.poll)
        (.ok (some (poll + polls.length), ⟨leader, state⟩))
  | missed (polls : List (Except Error Info))
      (hpolls : polls.length = left) (hnone : NoneOther previous polls) :
      Watched h previous before poll left (polls.flatMap h.poll)
        (.ok (none, ⟨previous, lastClustered before polls⟩))

section
variable {h : Handle} {previous : String} {before : Info} {poll left : Nat}

theorem noneOther_nil : NoneOther previous [] := fun _ hreply => nomatch hreply

theorem noneOther_cons {reply : Except Error Info} {polls : List (Except Error Info)}
    (hreply : ∀ leader, leaderShown? reply = some leader → leader = previous)
    (hpolls : NoneOther previous polls) : NoneOther previous (reply :: polls) :=
  List.forall_mem_cons.mpr ⟨hreply, hpolls⟩

theorem lastClustered_cons (before : Info) (reply : Except Error Info)
    (polls : List (Except Error Info)) :
    lastClustered before (reply :: polls) =
      lastClustered ((clustered? reply).getD before) polls := by
  unfold lastClustered
  rw [List.filterMap_cons]
  cases clustered? reply with
  | none => rfl
  | some state => exact List.getLastD_cons ..

theorem clustered?_of_shown {state : Info} {leader : String}
    (hshown : leaderShown? (.ok state) = some leader) : clustered? (.ok state) = some state := by
  obtain ⟨cluster, hcluster, -⟩ := Option.map_eq_some_iff.mp hshown
  show Option.filter (·.cluster.isSome) (some state) = some state
  rw [Option.filter_some, hcluster]
  rfl

theorem clustered?_of_hidden {state : Info} (hhidden : leaderShown? (.ok state) = none) :
    clustered? (.ok state) = none := by
  have hcluster : state.cluster = none := Option.map_eq_none_iff.mp hhidden
  show Option.filter (·.cluster.isSome) (some state) = none
  rw [Option.filter_some, hcluster]
  rfl

/-- The last of the polls showed a cluster, so its state is the one that stands. -/
theorem lastClustered_concat {before state : Info} {polls : List (Except Error Info)}
    {leader : String} (hshown : leaderShown? (.ok state) = some leader) :
    lastClustered before (polls ++ [.ok state]) = state := by
  unfold lastClustered
  rw [List.filterMap_append, List.filterMap_cons, clustered?_of_shown hshown]
  exact List.getLastD_concat ..

/-- A poll that shows no other leader goes before what comes of the others. -/
theorem Watched.cons (reply : Except Error Info) {talk : List Exchange}
    {result : Except Error (Option Nat × Sighting)}
    (hreply : ∀ leader, leaderShown? reply = some leader → leader = previous)
    (hrest : Watched h previous ((clustered? reply).getD before) (poll + 1) left talk result) :
    Watched h previous before poll (left + 1) (h.poll reply ++ talk) result := by
  cases hrest with
  | found polls state leader hpolls hnone hshown hother =>
      have hfound : Watched h previous before poll (left + 1) _ _ :=
        .found (reply :: polls) state leader (Nat.succ_lt_succ hpolls)
          (noneOther_cons hreply hnone) hshown hother
      rwa [List.length_cons, ← Nat.add_assoc, Nat.add_right_comm] at hfound
  | missed polls hpolls hnone =>
      rw [← lastClustered_cons]
      exact .missed (reply :: polls) (congrArg (· + 1) hpolls) (noneOther_cons hreply hnone)

/-- The loop of polls, from a sighting of the previous leader. -/
theorem ensures_watch (h : Handle) (previous : String) (left poll : Nat) (seen : Sighting)
    (hseen : seen.leader = previous) :
    (watch h previous poll left seen).Ensures fun talk result =>
      Watched h previous seen.state poll left (dealings talk) result := by
  induction left generalizing poll seen with
  | zero =>
      obtain ⟨leader, state⟩ := seen
      subst hseen
      exact Job.ensures_pure (.missed [] rfl noneOther_nil)
  | succ left ih =>
      unfold watch
      refine Job.ensures_wait_bind (Job.ensures_attempt_bind ?_)
      intro (reply : Except Error Info)
      cases reply with
      | error e =>
          refine Job.ensures_tell_bind ?_
          refine (ih (poll + 1) seen hseen).mono ?_
          intro talk result hrest
          exact .cons (.error e) (fun _ hnone => nomatch hnone) hrest
      | ok state =>
          dsimp only
          cases hcluster : state.cluster with
          | none =>
              -- without a cluster the poll counts, but the sighting stays what it was
              have hhidden : leaderShown? (.ok state) = none := by
                show state.cluster.map (·.leader) = none
                rw [hcluster]
                rfl
              refine Job.ensures_tell_bind ?_
              refine (ih (poll + 1) seen hseen).mono ?_
              intro talk result hrest
              refine .cons (.ok state) ?_ ?_
              · intro leader hleader
                rw [hhidden] at hleader
                exact nomatch hleader
              · rw [clustered?_of_hidden hhidden]
                exact hrest
          | some cluster =>
              have hshown : leaderShown? (.ok state) = some cluster.leader := by
                show state.cluster.map (·.leader) = some cluster.leader
                rw [hcluster]
                rfl
              dsimp only
              by_cases hleader : cluster.leader = previous
              · rw [if_pos hleader]
                refine Job.ensures_tell_bind ?_
                refine (ih (poll + 1) ⟨cluster.leader, state⟩ hleader).mono ?_
                intro talk result hrest
                refine .cons (.ok state) ?_ ?_
                · intro leader hleader'
                  rw [hshown] at hleader'
                  exact Option.some.inj hleader' ▸ hleader
                · rw [clustered?_of_shown hshown]
                  exact hrest
              · rw [if_neg hleader]
                refine Job.ensures_tell_bind ?_
                refine Job.ensures_pure ?_
                -- this poll ends the loop, so none came before it
                exact .found [] state cluster.leader (Nat.succ_pos left) noneOther_nil hshown
                  hleader

end

/-! ## The outcome and the last state -/

variable {β : Type} {Q : List Exchange → Except Error β → Prop}

/-- After the polls the state is read once more, and stands if it can be read. -/
theorem ensures_lastState_bind (h : Handle) (seen : Sighting) {f : Info → Job β}
    (hnext : ∀ last talk, dealings talk = [h.reading last] →
      (f (last.toOption.getD seen.state)).Ensures fun more => Q (talk ++ more)) :
    (lastState h seen >>= f).Ensures Q := by
  refine Ensures.bind ?_
  refine Job.ensures_attempt_bind ?_
  intro (reply : Except Error Info)
  cases reply with
  | ok state => exact Job.ensures_pure (hnext (.ok state) [h.reading (.ok state)] rfl)
  | error e =>
      refine Job.ensures_tell_bind ?_
      exact Job.ensures_pure (hnext (.error e) [h.reading (.error e), ⟨.tell _, ()⟩] rfl)

theorem ensures_stepDown (h : Handle) :
    (stepDown h).Ensures fun talk result => StepDownCourse h (dealings talk) result := by
  unfold stepDown
  refine Job.ensures_request_bind (fun e => .unread e) ?_
  intro (info : Info)
  cases hcluster : info.cluster with
  | none =>
      dsimp only
      exact Job.ensures_throw (.unclustered info hcluster)
  | some cluster =>
      dsimp only
      refine Job.ensures_tell_bind ?_
      refine Job.ensures_request_bind (fun e => .refused info cluster e hcluster) ?_
      intro (_ : Unit)
      refine Job.ensures_clock_bind ?_
      intro started
      -- before the first poll the leader seen last is the previous one
      have hwatch := ensures_watch h cluster.leader stepDownPolls 1 ⟨cluster.leader, info⟩ rfl
      refine Ensures.bind (hwatch.mono ?_)
      intro talk result hwatched
      generalize hpolled : dealings talk = polled at hwatched
      cases hwatched with
      | found polls state leader hpolls hnone hshown hother =>
          refine Ensures.bind ?_
          refine Job.ensures_pure ?_
          refine ensures_lastState_bind h ⟨leader, state⟩ ?_
          intro last more hlast
          refine Job.ensures_pure ?_
          have helected := StepDownCourse.elected (h := h) info cluster started polls state leader
            last hcluster hpolls hnone hshown hother
          rw [lastClustered_concat hshown, Nat.add_comm, ← hpolled, ← hlast, List.append_assoc,
            ← dealings_append] at helected
          rw [List.append_nil]
          exact helected
      | missed polls hpolls hnone =>
          refine Ensures.bind ?_
          refine Job.ensures_clock_bind ?_
          intro ended
          refine Job.ensures_tell_bind ?_
          refine Job.ensures_pure ?_
          refine ensures_lastState_bind h ⟨cluster.leader, lastClustered info polls⟩ ?_
          intro last more hlast
          refine Job.ensures_pure ?_
          have hunchanged := StepDownCourse.unchanged (h := h) info cluster started ended polls last
            hcluster hpolls hnone
          rw [← List.singleton_append, ← hpolled, ← hlast, List.append_assoc] at hunchanged
          rw [List.append_nil]
          show StepDownCourse h ([h.reading (.ok info), h.asking (.ok ()), clockShows started] ++
            dealings (talk ++ ⟨.clock, ended⟩ :: ⟨.tell _, ()⟩ :: more)) _
          rw [dealings_append]
          exact hunchanged

/-- Every step down, of any consumer at any broker, goes one of the five ways. -/
theorem stepDown_course {σ : Type} (handler : Procedure.Handler σ) (h : Handle) (world : σ) :
    StepDownCourse h (dealings ((stepDown h).run.conversation handler world))
      ((stepDown h).run.run handler world).1 :=
  Procedure.Ensures.run (ensures_stepDown h) handler world

end JetStream.Consumer

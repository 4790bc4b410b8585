import JetStream.Proofs.Broker.Memory.Reachable

/-!
# Which messages a policy starts with

A new consumer starts with the messages of its stream that its filter lets through and that its
policy picks.  `Picks` says of a single message whether a policy picks it, and since the messages of
a stream are numbered in the order in which they came, what a consumer starts with is known from
that alone.
-/

namespace JetStream.Broker.Memory

open Consumer (Config)

/-- The policy picks a message, among those that a consumer wants. -/
def Picks (policy : DeliverPolicy) (wanted : List Stored) (m : Stored) : Prop :=
  match policy with
  | .all => True
  | .new => False
  | .last => ∀ other ∈ wanted, ¬m.sequence < other.sequence
  | .byStartSequence start => start.toNat ≤ m.sequence
  | .byStartTime start => start.le m.time
  | .lastPerSubject =>
      ∀ other ∈ wanted, m.sequence < other.sequence → other.subject ≠ m.subject

variable {wanted : List Stored} {sequence : Nat}

/-- The last message is the one that has none after it. -/
theorem getLast?_eq_some_iff_of_pairwise (h : (wanted.map (·.sequence)).Pairwise (· < ·))
    {m : Stored} :
    wanted.getLast? = some m ↔ m ∈ wanted ∧ ∀ other ∈ wanted, ¬m.sequence < other.sequence := by
  induction wanted using List.reverseRecOn with
  | nil => simp
  | append_singleton before last _ =>
      have hearlier := lt_of_mem_of_pairwise_concat h
      rw [List.getLast?_concat]
      constructor
      · intro hlast
        obtain rfl := Option.some.inj hlast
        refine ⟨List.mem_concat_self, ?_⟩
        intro other hother
        rcases List.mem_append.mp hother with hbefore | hlast
        · exact Nat.lt_asymm (hearlier other hbefore)
        · rw [List.mem_singleton.mp hlast]
          exact Nat.lt_irrefl _
      · rintro ⟨hm, hlatest⟩
        rcases List.mem_append.mp hm with hbefore | hlast
        · exact absurd (hearlier m hbefore) (hlatest last List.mem_concat_self)
        · rw [List.mem_singleton.mp hlast]

theorem mem_startingSequences_iff (policy : DeliverPolicy)
    (h : (wanted.map (·.sequence)).Pairwise (· < ·)) :
    sequence ∈ startingSequences policy wanted ↔
      ∃ m ∈ wanted, m.sequence = sequence ∧ Picks policy wanted m := by
  cases policy with
  | all => simp [startingSequences, Picks]
  | new => simp [startingSequences, Picks]
  | last =>
      simp only [startingSequences, Picks, Option.mem_toList, Option.map_eq_some_iff,
        getLast?_eq_some_iff_of_pairwise h, and_assoc]
      exact exists_congr fun m => and_congr_right fun _ => and_comm
  | byStartSequence start =>
      simp only [startingSequences, Picks, List.mem_map, List.mem_filter, decide_eq_true_eq,
        and_assoc]
      exact exists_congr fun m => and_congr_right fun _ => and_comm
  | byStartTime start =>
      simp only [startingSequences, Picks, List.mem_map, List.mem_filter, and_assoc]
      exact exists_congr fun m => and_congr_right fun _ => and_comm
  | lastPerSubject => exact mem_lastPerSubject_iff h

namespace State

/-- In every stream that there ever is, a new consumer starts with the sequences of the messages
that its filter lets through and its policy picks, and they ascend. -/
theorem initialSequences_exact {steps : List Step} {name : String} {stream : HeldStream}
    (hstream : (({} : State).run steps).streams.get? name = some stream) (config : Config) :
    let wanted := stream.messages.filter fun m => Subject.isWanted config.filterSubject m.subject
    (initialSequences stream.messages config).Pairwise (· < ·) ∧
      (∀ sequence ∈ initialSequences stream.messages config, ∃ m ∈ wanted, m.sequence = sequence) ∧
      (∀ m ∈ wanted,
        m.sequence ∈ initialSequences stream.messages config ↔
          Picks config.deliverPolicy wanted m) ∧
      (config.filterSubject = none → wanted = stream.messages) := by
  intro wanted
  have hmessages := ((coherent_run steps).streams name stream hstream).numbered.pairwise
  have hwanted : (wanted.map (·.sequence)).Pairwise (· < ·) :=
    hmessages.sublist (List.filter_sublist.map _)
  refine ⟨pairwise_initialSequences config hmessages, ?_, ?_, ?_⟩
  · intro sequence hsequence
    obtain ⟨m, hm, heq, -⟩ := (mem_startingSequences_iff _ hwanted).mp hsequence
    exact ⟨m, hm, heq⟩
  · intro m hm
    unfold initialSequences
    rw [mem_startingSequences_iff _ hwanted]
    constructor
    · rintro ⟨other, hother, hsequence, hpicks⟩
      rwa [← eq_of_sequence_eq hwanted hother hm hsequence]
    · intro hpicks
      exact ⟨m, hm, rfl, hpicks⟩
  · intro hfilter
    refine List.filter_eq_self.mpr fun m _ => ?_
    rw [hfilter]
    rfl

/-- Of two messages under one subject the later counts, which is not the order of the subjects. -/
theorem initialSequences_exact_lastPerSubject :
    let steps : List Step :=
      [⟨.epoch, "", .addStream "S" ["s.>"]⟩, ⟨.epoch, "", .publish "s.a" [] []⟩,
        ⟨.epoch, "", .publish "s.b" [] []⟩, ⟨.epoch, "", .publish "s.a" [] []⟩]
    let config : Config := { deliverPolicy := .lastPerSubject, filterSubject := some "s.*" }
    ∃ stream, (({} : State).run steps).streams.get? "S" = some stream ∧
      (initialSequences stream.messages config).Pairwise (· < ·) ∧
      1 ∉ initialSequences stream.messages config ∧
      2 ∈ initialSequences stream.messages config ∧
      3 ∈ initialSequences stream.messages config := by
  intro steps config
  let first : Stored := ⟨1, "s.a", [], [], .epoch⟩
  let second : Stored := ⟨2, "s.b", [], [], .epoch⟩
  let third : Stored := ⟨3, "s.a", [], [], .epoch⟩
  have hstream : (({} : State).run steps).streams.get? "S" =
      some { subjects := ["s.>"], messages := [first, second, third] } := by
    decide
  obtain ⟨hascending, -, hpicked, -⟩ := initialSequences_exact hstream config
  have hwanted : [first, second, third].filter
      (fun m => Subject.isWanted config.filterSubject m.subject) = [first, second, third] := by
    decide
  rw [hwanted] at hpicked
  refine ⟨_, hstream, hascending, ?_, ?_, ?_⟩
  · rw [hpicked first (by decide)]
    intro hpicks
    exact hpicks third (by decide) (by decide) rfl
  · rw [hpicked second (by decide)]
    show ∀ other ∈ [first, second, third], second.sequence < other.sequence → _
    decide
  · rw [hpicked third (by decide)]
    show ∀ other ∈ [first, second, third], third.sequence < other.sequence → _
    decide

end State

end JetStream.Broker.Memory

import JetStream.Broker.Memory.Delivery
import JetStream.Proofs.NameMap.Entries
import Mathlib.Data.List.Induction
import Mathlib.Data.List.Nodup
import Mathlib.Data.List.Sort

/-!
# Where a consumer starts

Every policy picks some of the messages that a consumer wants, and what a new consumer starts with
are their sequences in ascending order, where the sequences of the stream ascend.

## Strategy

Most policies take out some of the messages and keep their order.  The last message of each subject
is found through a collection by subject, where a later message takes the place of an earlier one
(`lastUnder_eq_some_iff`); this loses the order, and sorting restores it.  Nothing is there twice
since no two messages have the same sequence.
-/

namespace JetStream.Broker.Memory

open Consumer (Config)

variable {messages : List Stored} {sequence : Nat}

/-! ## The last message of each subject -/

theorem lt_of_mem_of_pairwise_concat {m : Stored} {before : List Stored}
    (h : ((before ++ [m]).map (·.sequence)).Pairwise (· < ·)) :
    ∀ other ∈ before, other.sequence < m.sequence := by
  intro other hother
  rw [List.map_append, List.map_singleton] at h
  obtain ⟨-, -, hlt⟩ := List.pairwise_append.mp h
  exact hlt _ (List.mem_map_of_mem hother) _ (List.mem_singleton_self _)

/-- The last sequence under a subject is that of the message after which none has the subject. -/
theorem lastUnder_eq_some_iff (h : (messages.map (·.sequence)).Pairwise (· < ·))
    {subject : String} :
    (NameMap.ofList (messages.map fun m => (m.subject, m.sequence))).get? subject = some sequence ↔
      ∃ m ∈ messages, m.subject = subject ∧ m.sequence = sequence ∧
        ∀ other ∈ messages, m.sequence < other.sequence → other.subject ≠ subject := by
  induction messages using List.reverseRecOn with
  | nil => simp [NameMap.ofList]
  | append_singleton before last ih =>
      have hearlier := lt_of_mem_of_pairwise_concat h
      have hbefore := h.sublist ((List.sublist_append_left before [last]).map _)
      rw [NameMap.get?_ofList_eq_reverse] at ih ⊢
      rw [List.map_append, List.reverse_append, List.map_singleton, List.reverse_singleton,
        List.singleton_append, NameMap.get?_cons]
      split
      next hsubject =>
        constructor
        · intro hlast
          refine ⟨last, List.mem_concat_self, hsubject, Option.some.inj hlast, ?_⟩
          intro other hother hlt
          rcases List.mem_append.mp hother with hmem | hmem
          · exact absurd hlt (Nat.lt_asymm (hearlier other hmem))
          · rw [List.mem_singleton.mp hmem] at hlt
            exact absurd hlt (Nat.lt_irrefl _)
        · rintro ⟨m, hm, -, rfl, hlatest⟩
          rcases List.mem_append.mp hm with hmem | hmem
          · exact absurd hsubject (hlatest last List.mem_concat_self (hearlier m hmem))
          · rw [List.mem_singleton.mp hmem]
      next hsubject =>
        rw [ih hbefore]
        constructor
        · rintro ⟨m, hm, hsame, hsequence, hlatest⟩
          refine ⟨m, List.mem_append_left _ hm, hsame, hsequence, ?_⟩
          intro other hother hlt
          rcases List.mem_append.mp hother with hmem | hmem
          · exact hlatest other hmem hlt
          · rw [List.mem_singleton.mp hmem]
            exact hsubject
        · rintro ⟨m, hm, hsame, hsequence, hlatest⟩
          rcases List.mem_append.mp hm with hmem | hmem
          · exact ⟨m, hmem, hsame, hsequence,
              fun other hother => hlatest other (List.mem_append_left _ hother)⟩
          · rw [List.mem_singleton.mp hmem] at hsame
            exact absurd hsame hsubject

/-- The entries of the collection by subject are those of the last messages. -/
theorem mem_lastUnder_iff (h : (messages.map (·.sequence)).Pairwise (· < ·)) {subject : String} :
    (subject, sequence) ∈ NameMap.ofList (messages.map fun m => (m.subject, m.sequence)) ↔
      ∃ m ∈ messages, m.subject = subject ∧ m.sequence = sequence ∧
        ∀ other ∈ messages, m.sequence < other.sequence → other.subject ≠ subject := by
  rw [← lastUnder_eq_some_iff h]
  exact ⟨NameMap.get?_of_mem (NameMap.ascending_ofList _), NameMap.mem_of_get?⟩

theorem mem_lastPerSubject_iff (h : (messages.map (·.sequence)).Pairwise (· < ·)) :
    sequence ∈ lastPerSubject messages ↔
      ∃ m ∈ messages, m.sequence = sequence ∧
        ∀ other ∈ messages, m.sequence < other.sequence → other.subject ≠ m.subject := by
  unfold lastPerSubject
  rw [List.mem_mergeSort, List.mem_map]
  constructor
  · rintro ⟨⟨subject, sequence⟩, hentry, rfl⟩
    obtain ⟨m, hm, rfl, hsequence, hlatest⟩ := (mem_lastUnder_iff h).mp hentry
    exact ⟨m, hm, hsequence, hlatest⟩
  · rintro ⟨m, hm, hsequence, hlatest⟩
    have hentry := (mem_lastUnder_iff h).mpr ⟨m, hm, rfl, hsequence, hlatest⟩
    exact ⟨(m.subject, sequence), hentry, rfl⟩

/-- Messages with one sequence are the same message. -/
theorem eq_of_sequence_eq (h : (messages.map (·.sequence)).Pairwise (· < ·)) {m m' : Stored}
    (hm : m ∈ messages) (hm' : m' ∈ messages) (hsequence : m.sequence = m'.sequence) : m = m' :=
  List.inj_on_of_nodup_map (h.imp Nat.ne_of_lt) hm hm' hsequence

theorem pairwise_lastPerSubject (h : (messages.map (·.sequence)).Pairwise (· < ·)) :
    (lastPerSubject messages).Pairwise (· < ·) := by
  have hsorted : (lastPerSubject messages).Pairwise (· ≤ ·) := List.pairwise_mergeSort' (· ≤ ·) _
  -- two subjects never share their last sequence
  have hnodup : (lastPerSubject messages).Nodup := by
    unfold lastPerSubject
    rw [(List.mergeSort_perm _ _).nodup_iff]
    have hascending := List.pairwise_map.mp
      (NameMap.ascending_ofList (messages.map fun m => (m.subject, m.sequence)))
    refine List.pairwise_map.mpr (hascending.imp_of_mem ?_)
    rintro ⟨first, sequence⟩ ⟨second, sequence'⟩ hfirst hsecond hlt rfl
    obtain ⟨m, hm, rfl, hsequence, -⟩ := (mem_lastUnder_iff h).mp hfirst
    obtain ⟨m', hm', rfl, hsequence', -⟩ := (mem_lastUnder_iff h).mp hsecond
    obtain rfl := eq_of_sequence_eq h hm hm' (hsequence.trans hsequence'.symm)
    exact String.lt_irrefl _ hlt
  exact (hsorted.and hnodup).imp fun hboth => Nat.lt_of_le_of_ne hboth.1 hboth.2

/-! ## All policies -/

/-- What a policy starts with are sequences of the messages. -/
theorem startingSequences_subset (policy : DeliverPolicy) (messages : List Stored) :
    startingSequences policy messages ⊆ messages.map (·.sequence) := by
  cases policy with
  | all => exact List.Subset.refl _
  | new => exact List.nil_subset _
  | last =>
      intro sequence hsequence
      obtain ⟨m, hlast, hm⟩ := Option.map_eq_some_iff.mp (Option.mem_toList.mp hsequence)
      exact hm ▸ List.mem_map_of_mem (List.mem_of_getLast? hlast)
  | byStartSequence start => exact (List.filter_sublist.map _).subset
  | byStartTime start => exact (List.filter_sublist.map _).subset
  | lastPerSubject =>
      intro sequence hsequence
      obtain ⟨⟨subject, sequence⟩, hentry, rfl⟩ :=
        List.mem_map.mp (List.mem_mergeSort.mp hsequence)
      obtain ⟨m, hm, heq⟩ := List.mem_map.mp (NameMap.mem_of_mem_ofList hentry)
      exact List.mem_map.mpr ⟨m, hm, congrArg Prod.snd heq⟩

theorem pairwise_startingSequences (policy : DeliverPolicy)
    (h : (messages.map (·.sequence)).Pairwise (· < ·)) :
    (startingSequences policy messages).Pairwise (· < ·) := by
  cases policy with
  | all => exact h
  | new => exact .nil
  | last =>
      show (messages.getLast?.map (·.sequence)).toList.Pairwise (· < ·)
      cases messages.getLast? with
      | none => exact .nil
      | some m => exact List.pairwise_singleton _ _
  | byStartSequence start => exact h.sublist (List.filter_sublist.map _)
  | byStartTime start => exact h.sublist (List.filter_sublist.map _)
  | lastPerSubject => exact pairwise_lastPerSubject h

theorem exists_of_mem_initialSequences {config : Config}
    (h : sequence ∈ initialSequences messages config) :
    ∃ m ∈ messages, m.sequence = sequence ∧ Subject.isWanted config.filterSubject m.subject := by
  obtain ⟨m, hm, hsequence⟩ := List.mem_map.mp (startingSequences_subset _ _ h)
  obtain ⟨hstored, hwanted⟩ := List.mem_filter.mp hm
  exact ⟨m, hstored, hsequence, hwanted⟩

/-- Where the sequences of the messages ascend, so do those that a consumer starts with. -/
theorem pairwise_initialSequences (config : Config)
    (h : (messages.map (·.sequence)).Pairwise (· < ·)) :
    (initialSequences messages config).Pairwise (· < ·) :=
  pairwise_startingSequences config.deliverPolicy (h.sublist (List.filter_sublist.map _))

end JetStream.Broker.Memory

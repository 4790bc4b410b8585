import JetStream.Proofs.Message.Address

/-!
# Details of a delivery read back from its address

An address is written from the details of a delivery and read when the delivery is acknowledged.
Names without points and numbers of 64 bits come back as they were (`parse?_reply`).  The time comes
back as its count of nanoseconds, or as the start of 1970 where that does not fit 64 bits.  An
instant that `HasCount` is the one that its count stands for.
-/

namespace JetStream

open Text

/-! ## Signed numbers -/

theorem Text.toList_toString_nat (n : Nat) : (toString n).toList = Nat.toDigits 10 n := by
  rw [Nat.toString_eq_repr, Nat.toList_repr]

theorem Text.signed64?_toString {n : Int} (hlow : minSigned64 ≤ n) (hhigh : n ≤ maxSigned64) :
    signed64? (toString n) = some n := by
  have hbounds : (decide (minSigned64 ≤ n) && decide (n ≤ maxSigned64)) = true := by
    simp [hlow, hhigh]
  cases n with
  | ofNat n =>
      obtain ⟨c, digits, hdigits, hc⟩ := exists_toDigits_eq_cons n
      have hvalue : natural? (c :: digits) = some n := hdigits ▸ natural?_toDigits n
      have hlist : (toString (Int.ofNat n)).toList = c :: digits :=
        (toList_toString_nat n).trans hdigits
      unfold signed64? signed?
      rw [hlist]
      split
      next heq =>
        cases heq
        exact absurd hc (by decide)
      next heq =>
        cases heq
        exact absurd hc (by decide)
      next =>
        rw [hvalue]
        exact Option.filter_eq_some_iff.mpr ⟨rfl, hbounds⟩
  | negSucc n =>
      have hlist : (toString (Int.negSucc n)).toList = '-' :: Nat.toDigits 10 (n + 1) := by
        have htext : toString (Int.negSucc n) = "-" ++ Nat.repr (n + 1) := rfl
        rw [htext, String.toList_append, Nat.toList_repr]
        rfl
      unfold signed64? signed?
      rw [hlist]
      simp only [natural?_toDigits]
      exact Option.filter_eq_some_iff.mpr ⟨rfl, hbounds⟩

/-! ## Times -/

namespace Instant

theorem bounds_of_nanosecondsSinceEpoch? (t : Instant) :
    minSigned64 ≤ t.nanosecondsSinceEpoch?.getD 0 ∧
      t.nanosecondsSinceEpoch?.getD 0 ≤ maxSigned64 := by
  unfold nanosecondsSinceEpoch?
  dsimp only
  split
  next hbounds => exact hbounds
  next => decide

/-- The instant has a count of 64 bits to itself; those within a leap second share theirs with the
second after it. -/
structure HasCount (t : Instant) : Prop where
  count : t.nanosecondsSinceEpoch?.isSome = true
  notLeap : t.isLeap = false

theorem HasCount.eq_of_read {t stored : Instant} (h : t.HasCount)
    (hread : ofNanosecondsSinceEpoch? (t.nanosecondsSinceEpoch?.getD 0) = some stored) :
    stored = t := by
  have hnanosecond : t.nanosecond < 1_000_000_000 := by
    simpa [isLeap] using h.notLeap
  have hcount : t.nanosecondsSinceEpoch?.getD 0 = t.second * 1_000_000_000 + t.nanosecond := by
    have hsome := h.count
    unfold nanosecondsSinceEpoch? at hsome ⊢
    dsimp only at hsome ⊢
    split at hsome
    next hbounds => rw [if_pos hbounds, Option.getD_some]
    next => cases hsome
  have hsecond : (t.second * 1_000_000_000 + t.nanosecond) / 1_000_000_000 = t.second := by
    omega
  have hrest :
      ((t.second * 1_000_000_000 + t.nanosecond) % 1_000_000_000).toNat = t.nanosecond := by
    omega
  rw [hcount, ofNanosecondsSinceEpoch?, hsecond, hrest, ofParts?_self] at hread
  exact (Option.some.inj hread).symm

/-- All counts of 64 bits are instants. -/
theorem exists_ofNanosecondsSinceEpoch? {count : Int} (hlow : minSigned64 ≤ count)
    (hhigh : count ≤ maxSigned64) : ∃ t, ofNanosecondsSinceEpoch? count = some t := by
  have hfirst : firstSecond ≤ minSigned64 / 1_000_000_000 := by decide
  have hlast : maxSigned64 / 1_000_000_000 ≤ lastSecond := by decide
  have hinstant : IsInstant (count / 1_000_000_000) (count % 1_000_000_000).toNat := by
    unfold IsInstant
    omega
  unfold ofNanosecondsSinceEpoch? ofParts?
  rw [dif_pos hinstant]
  exact ⟨_, rfl⟩

end Instant

/-! ## Addresses -/

namespace Metadata

theorem split_reply_of_notMem {m : Metadata} (hstream : '.' ∉ m.stream.toList)
    (hconsumer : '.' ∉ m.consumer.toList) :
    split '.' m.reply =
      ["$JS", "ACK", m.stream, m.consumer, toString m.delivered, toString m.streamSequence,
        toString m.consumerSequence, toString (m.stored.nanosecondsSinceEpoch?.getD 0),
        toString m.pending] := by
  refine split_intercalate (List.cons_ne_nil _ _) ?_
  simp only [List.forall_mem_cons]
  exact ⟨by decide, by decide, hstream, hconsumer, point_notMem_toString_nat _,
    point_notMem_toString_nat _, point_notMem_toString_nat _, point_notMem_toString_int _,
    point_notMem_toString_nat _, List.forall_mem_nil _⟩

/-- The details that were written are read, without a domain. -/
theorem parse?_reply {m : Metadata} (hstream : '.' ∉ m.stream.toList)
    (hconsumer : '.' ∉ m.consumer.toList) (hdelivered : m.delivered ≤ maxUnsigned64)
    (hstreamSequence : m.streamSequence ≤ maxUnsigned64)
    (hconsumerSequence : m.consumerSequence ≤ maxUnsigned64)
    (hpending : m.pending ≤ maxUnsigned64) :
    ∃ stored, (m.stored.HasCount → stored = m.stored) ∧
      parse? m.reply = some { m with domain := none, stored := stored } := by
  obtain ⟨hlow, hhigh⟩ := Instant.bounds_of_nanosecondsSinceEpoch? m.stored
  obtain ⟨stored, hstored⟩ := Instant.exists_ofNanosecondsSinceEpoch? hlow hhigh
  refine ⟨stored, fun hcount => hcount.eq_of_read hstored, ?_⟩
  unfold parse?
  rw [split_reply_of_notMem hstream hconsumer]
  simp only [List.length_cons, List.length_nil, if_true, ofTokens?, unsigned64?,
    unsigned?_toString hdelivered, unsigned?_toString hstreamSequence,
    unsigned?_toString hconsumerSequence, unsigned?_toString hpending,
    signed64?_toString hlow hhigh, hstored, Option.bind_eq_bind, Option.bind_some]

end Metadata

end JetStream

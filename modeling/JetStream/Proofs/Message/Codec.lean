import JetStream.Proofs.Message.Reply

/-!
# Which addresses tell which details

An address of nine tokens tells the details of a delivery, and one of eleven or more names a domain
and an account before them.  A point in a name makes two tokens of it: with one point there is no
address any more, and with two or more there is one of some other delivery.

## Strategy

`readTokens?` is the reader with every token that it looks at known to be there, and `parse?` is
that reader on the tokens of an address (`parse?_eq_readTokens?`).  What it reads is then a matter
of the seven tokens of the details alone (`detailsIn?_eq_some_iff`).  From there `parse?_exact`
goes back and forth: what is read can be written and read again, without its domain.
-/

namespace JetStream

open Text

/-! ## Numbers and times -/

theorem Text.unsigned64?_le {s : String} {n : Nat} (h : unsigned64? s = some n) :
    n ≤ maxUnsigned64 := by
  obtain ⟨-, hbound⟩ := Option.filter_eq_some_iff.mp h
  exact of_decide_eq_true hbound

theorem Text.bounds_of_signed64? {s : String} {n : Int} (h : signed64? s = some n) :
    minSigned64 ≤ n ∧ n ≤ maxSigned64 := by
  obtain ⟨-, hbounds⟩ := Option.filter_eq_some_iff.mp h
  simpa using hbounds

/-- A count of 64 bits stands for the instant that has it to itself. -/
theorem Instant.ofNanosecondsSinceEpoch?_eq_some_iff {count : Int} {t : Instant}
    (hlow : minSigned64 ≤ count) (hhigh : count ≤ maxSigned64) :
    ofNanosecondsSinceEpoch? count = some t ↔
      t.HasCount ∧ t.nanosecondsSinceEpoch? = some count := by
  constructor
  · intro h
    unfold ofNanosecondsSinceEpoch? ofParts? at h
    split at h
    next hinstant =>
      obtain rfl := Option.some.inj h
      have hsum : count / 1_000_000_000 * 1_000_000_000 +
          ((count % 1_000_000_000).toNat : Int) = count := by
        omega
      have hcount : nanosecondsSinceEpoch? ⟨_, _, hinstant⟩ = some count := by
        unfold nanosecondsSinceEpoch?
        dsimp only
        rw [hsum, if_pos ⟨hlow, hhigh⟩]
      refine ⟨⟨Option.isSome_of_eq_some hcount, ?_⟩, hcount⟩
      have hsubsecond : (count % 1_000_000_000).toNat < 1_000_000_000 := by omega
      exact decide_eq_false (Nat.not_le_of_lt hsubsecond)
    next => cases h
  · rintro ⟨hhas, hcount⟩
    obtain ⟨stored, hstored⟩ := exists_ofNanosecondsSinceEpoch? hlow hhigh
    have hread : ofNanosecondsSinceEpoch? (t.nanosecondsSinceEpoch?.getD 0) = some stored := by
      rw [hcount]
      exact hstored
    rw [hstored, hhas.eq_of_read hread]

namespace Metadata

variable {m : Metadata}

/-! ## The tokens of the details -/

/-- The details in seven tokens and more.  Every token that is looked at is there. -/
def detailsIn? (domain : Option String) (tokens : List String) (enough : 7 ≤ tokens.length) :
    Option Metadata := do
  let stored ← signed64? tokens[5]
  some
    { domain := domain
      stream := tokens[0]
      consumer := tokens[1]
      delivered := ← unsigned64? tokens[2]
      streamSequence := ← unsigned64? tokens[3]
      consumerSequence := ← unsigned64? tokens[4]
      stored := ← Instant.ofNanosecondsSinceEpoch? stored
      pending := ← unsigned64? tokens[6] }

/-- The details in the tokens of an address, after those that all addresses begin with. -/
def detailsAfter? (rest : List String) : Option Metadata :=
  if short : rest.length = 7 then detailsIn? none rest (Nat.le_of_eq short.symm)
  else if long : 9 ≤ rest.length then
    detailsIn? (if rest[0] = "_" then none else some rest[0]) (rest.drop 2)
      (by rw [List.length_drop]; omega)
  else none

/-- The details in the tokens of an address. -/
def readTokens? : List String → Option Metadata
  | "$JS" :: "ACK" :: rest => detailsAfter? rest
  | _ => none

theorem ofTokens?_eq_detailsIn? (domain : Option String) {tokens : List String}
    (enough : 7 ≤ tokens.length) : ofTokens? domain tokens = detailsIn? domain tokens enough := by
  match tokens, enough with
  | _ :: _ :: _ :: _ :: _ :: _ :: _ :: _, _ => rfl

/-- The reader never looks past the tokens that there are. -/
theorem parse?_eq_readTokens? (reply : String) : parse? reply = readTokens? (split '.' reply) := by
  unfold parse?
  generalize split '.' reply = tokens
  split
  next rest =>
    rw [readTokens?, detailsAfter?]
    split
    next short => exact ofTokens?_eq_detailsIn? none _
    next =>
      split
      next long =>
        rcases rest with _ | ⟨domain, _ | ⟨account, tokens⟩⟩
        · exact absurd long (by decide)
        · exact absurd long (by simp)
        · exact ofTokens?_eq_detailsIn? _ _
      next => rfl
  next hother => rw [readTokens?.eq_2 _ hother]

/-- The details are those of seven tokens: the names are the tokens themselves, and the numbers are
what the tokens are the numerals of. -/
structure AreDetails (m : Metadata) (tokens : List String) : Prop where
  enough : 7 ≤ tokens.length
  stream : tokens[0] = m.stream
  consumer : tokens[1] = m.consumer
  delivered : unsigned64? tokens[2] = some m.delivered
  streamSequence : unsigned64? tokens[3] = some m.streamSequence
  consumerSequence : unsigned64? tokens[4] = some m.consumerSequence
  stored : signed64? tokens[5] = m.stored.nanosecondsSinceEpoch?
  storedHasCount : m.stored.HasCount
  pending : unsigned64? tokens[6] = some m.pending

/-- The tokens of an address that tells the details: nine of them, or eleven and more with a domain,
where `_` stands for none, and an account. -/
inductive IsToldBy (m : Metadata) : List String → Prop
  | short {tokens : List String} (exact : tokens.length = 7) (domain : m.domain = none)
      (details : m.AreDetails tokens) : m.IsToldBy ("$JS" :: "ACK" :: tokens)
  | long {domain account : String} {tokens : List String}
      (named : m.domain = if domain = "_" then none else some domain)
      (details : m.AreDetails tokens) : m.IsToldBy ("$JS" :: "ACK" :: domain :: account :: tokens)

theorem detailsIn?_eq_some_iff {domain : Option String} {tokens : List String}
    (enough : 7 ≤ tokens.length) :
    detailsIn? domain tokens enough = some m ↔ m.domain = domain ∧ m.AreDetails tokens := by
  constructor
  · intro h
    unfold detailsIn? at h
    obtain ⟨count, hcount, h⟩ := Option.bind_eq_some_iff.mp h
    obtain ⟨delivered, hdelivered, h⟩ := Option.bind_eq_some_iff.mp h
    obtain ⟨streamSequence, hstreamSequence, h⟩ := Option.bind_eq_some_iff.mp h
    obtain ⟨consumerSequence, hconsumerSequence, h⟩ := Option.bind_eq_some_iff.mp h
    obtain ⟨stored, hstored, h⟩ := Option.bind_eq_some_iff.mp h
    obtain ⟨pending, hpending, h⟩ := Option.bind_eq_some_iff.mp h
    obtain rfl := Option.some.inj h
    obtain ⟨hlow, hhigh⟩ := bounds_of_signed64? hcount
    obtain ⟨hhas, hcount'⟩ :=
      (Instant.ofNanosecondsSinceEpoch?_eq_some_iff hlow hhigh).mp hstored
    exact ⟨rfl, enough, rfl, rfl, hdelivered, hstreamSequence, hconsumerSequence,
      hcount.trans hcount'.symm, hhas, hpending⟩
  · rintro ⟨rfl, hdetails⟩
    obtain ⟨count, hcount⟩ := Option.isSome_iff_exists.mp hdetails.storedHasCount.count
    have hnumeral : signed64? tokens[5] = some count := hdetails.stored.trans hcount
    obtain ⟨hlow, hhigh⟩ := bounds_of_signed64? hnumeral
    have hstored : Instant.ofNanosecondsSinceEpoch? count = some m.stored :=
      (Instant.ofNanosecondsSinceEpoch?_eq_some_iff hlow hhigh).mpr
        ⟨hdetails.storedHasCount, hcount⟩
    unfold detailsIn?
    rw [hnumeral, hdetails.stream, hdetails.consumer, hdetails.delivered, hdetails.streamSequence,
      hdetails.consumerSequence, hdetails.pending]
    simp only [Option.bind_eq_bind, Option.bind_some, hstored]

theorem detailsAfter?_eq_some_iff {rest : List String} :
    detailsAfter? rest = some m ↔ m.IsToldBy ("$JS" :: "ACK" :: rest) := by
  unfold detailsAfter?
  constructor
  · intro h
    split at h
    next short =>
      obtain ⟨hdomain, hdetails⟩ := (detailsIn?_eq_some_iff _).mp h
      exact .short short hdomain hdetails
    next =>
      split at h
      next long =>
        obtain ⟨hdomain, hdetails⟩ := (detailsIn?_eq_some_iff _).mp h
        match rest, long with
        | domain :: account :: tokens, long => exact .long hdomain hdetails
      next => cases h
  · intro h
    cases h with
    | short exact hdomain hdetails =>
        rw [dif_pos exact]
        exact (detailsIn?_eq_some_iff _).mpr ⟨hdomain, hdetails⟩
    | long hdomain hdetails =>
        have hlong := hdetails.enough
        rw [dif_neg (by simp only [List.length_cons]; omega),
          dif_pos (by simp only [List.length_cons]; omega)]
        exact (detailsIn?_eq_some_iff _).mpr ⟨hdomain, hdetails⟩

theorem readTokens?_eq_some_iff {tokens : List String} :
    readTokens? tokens = some m ↔ m.IsToldBy tokens := by
  unfold readTokens?
  split
  next rest => exact detailsAfter?_eq_some_iff
  next hother =>
    constructor
    · intro h
      cases h
    · rintro (_ | _)
      · exact absurd rfl (hother _)
      · exact absurd rfl (hother _)

theorem parse?_eq_some_iff {reply : String} :
    parse? reply = some m ↔ m.IsToldBy (split '.' reply) := by
  rw [parse?_eq_readTokens?, readTokens?_eq_some_iff]

/-! ## There and back -/

/-- The numbers have 64 bits. -/
structure HasWords (m : Metadata) : Prop where
  delivered : m.delivered ≤ maxUnsigned64
  streamSequence : m.streamSequence ≤ maxUnsigned64
  consumerSequence : m.consumerSequence ≤ maxUnsigned64
  pending : m.pending ≤ maxUnsigned64

theorem AreDetails.hasWords {tokens : List String} (h : m.AreDetails tokens) : m.HasWords where
  delivered := unsigned64?_le h.delivered
  streamSequence := unsigned64?_le h.streamSequence
  consumerSequence := unsigned64?_le h.consumerSequence
  pending := unsigned64?_le h.pending

theorem IsToldBy.exists_areDetails {tokens : List String} (h : m.IsToldBy tokens) :
    ∃ details, m.AreDetails details ∧ details ⊆ tokens := by
  cases h with
  | short exact hdomain hdetails =>
      exact ⟨_, hdetails, List.subset_append_right ["$JS", "ACK"] _⟩
  | @long domain account _ hdomain hdetails =>
      exact ⟨_, hdetails, List.subset_append_right ["$JS", "ACK", domain, account] _⟩

/-- What is read from an address can be written and read again. -/
structure IsWritable (m : Metadata) : Prop where
  stream : '.' ∉ m.stream.toList
  consumer : '.' ∉ m.consumer.toList
  stored : m.stored.HasCount
  words : m.HasWords

theorem isWritable_of_parse? {reply : String} (h : parse? reply = some m) : m.IsWritable := by
  obtain ⟨details, hdetails, hsubset⟩ := (parse?_eq_some_iff.mp h).exists_areDetails
  have hpoint : ∀ token ∈ details, '.' ∉ token.toList :=
    fun token htoken => notMem_of_mem_split (hsubset htoken)
  have henough := hdetails.enough
  exact {
    stream := hdetails.stream ▸ hpoint _ (List.getElem_mem _)
    consumer := hdetails.consumer ▸ hpoint _ (List.getElem_mem _)
    stored := hdetails.storedHasCount
    words := hdetails.hasWords }

theorem IsWritable.parse?_reply (h : m.IsWritable) :
    parse? m.reply = some { m with domain := none } := by
  obtain ⟨stored, hstored, hparse⟩ := Metadata.parse?_reply h.stream h.consumer h.words.delivered
    h.words.streamSequence h.words.consumerSequence h.words.pending
  rw [hparse, hstored h.stored]

/-- Details that are written come back if and only if they have no domain, no point in their names
and a time that `HasCount`, and the numbers have 64 bits. -/
theorem parse?_exact (m : Metadata) (reply : String) :
    (parse? m.reply = some m ↔
      m.domain = none ∧ '.' ∉ m.stream.toList ∧ '.' ∉ m.consumer.toList ∧ m.stored.HasCount ∧
        m.HasWords) ∧
    (parse? reply = some m ↔ m.IsToldBy (split '.' reply)) ∧
    (parse? reply = some m → parse? m.reply = some { m with domain := none }) ∧
    parse? reply = readTokens? (split '.' reply) ∧
    ((split '.' reply).length ≠ 9 → (split '.' reply).length < 11 → parse? reply = none) := by
  refine ⟨⟨?_, ?_⟩, parse?_eq_some_iff, ?_, parse?_eq_readTokens? reply, ?_⟩
  · intro h
    have hwritable := isWritable_of_parse? h
    rw [hwritable.parse?_reply] at h
    have hdomain : none = m.domain := congrArg Metadata.domain (Option.some.inj h)
    exact ⟨hdomain.symm, hwritable.stream, hwritable.consumer, hwritable.stored, hwritable.words⟩
  · rintro ⟨hdomain, hstream, hconsumer, hstored, hwords⟩
    have hwritable : m.IsWritable := ⟨hstream, hconsumer, hstored, hwords⟩
    rw [hwritable.parse?_reply, ← hdomain]
  · intro h
    exact (isWritable_of_parse? h).parse?_reply
  · intro hnine hless
    refine Option.eq_none_iff_forall_ne_some.mpr fun m' h => ?_
    have htold := parse?_eq_some_iff.mp h
    generalize split '.' reply = tokens at htold hnine hless
    cases htold with
    | short exact => exact hnine (congrArg (· + 2) exact)
    | long _ hdetails =>
        have henough := hdetails.enough
        simp only [List.length_cons] at hless
        omega

/-- A domain, a sign, zeros in front, a time before 1970 and a token too many. -/
theorem parse?_exact_domain :
    let reply := "$JS.ACK.hub.HASH.ORDERS.NEW.+2.0042.7.-1500000000.0.more"
    let m : Metadata :=
      { domain := some "hub"
        stream := "ORDERS"
        consumer := "NEW"
        delivered := 2
        streamSequence := 42
        consumerSequence := 7
        stored := ⟨-2, 500000000, by decide⟩
        pending := 0 }
    parse? reply = some m ∧ m.IsToldBy (split '.' reply) ∧
      parse? m.reply = some { m with domain := none } := by
  intro reply m
  have hread : parse? reply = some m := by decide +kernel
  obtain ⟨-, htold, hback, -⟩ := parse?_exact m reply
  exact ⟨hread, htold.mp hread, hback hread⟩

end Metadata

end JetStream

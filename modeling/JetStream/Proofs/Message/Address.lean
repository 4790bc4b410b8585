import JetStream.Message
import JetStream.Proofs.Text.Decimal
import JetStream.Proofs.Text.Split

/-!
# Addresses of deliveries

The address of a delivery begins with names, which may have points in them, and ends with five
numbers, which have none.  So the numbers can be told from its end, whatever the names are.
-/

namespace JetStream

open Text

theorem Text.point_notMem_toString_nat (n : Nat) : '.' ∉ (toString n).toList := by
  intro hmem
  rw [Nat.toString_eq_repr, Nat.toList_repr] at hmem
  exact absurd (isDigit_of_mem_toDigits hmem) (by decide)

theorem Text.point_notMem_toString_int (n : Int) : '.' ∉ (toString n).toList := by
  rw [Int.toString_eq_repr, Int.repr_eq_if]
  split
  · exact point_notMem_toString_nat n.toNat
  · rw [String.toList_append]
    intro hmem
    rcases List.mem_append.mp hmem with hsign | hdigits
    · exact absurd hsign (by decide)
    · exact point_notMem_toString_nat (-n).toNat hdigits

theorem Text.natural?_toString (n : Nat) : natural? (toString n).toList = some n := by
  rw [Nat.toString_eq_repr, Nat.toList_repr, natural?_toDigits]

/-- The sequences in the stream and of the consumer that the address of a message ends with, before
the time and the count of the messages left. -/
def Message.sequences? (m : Message) : Option (Nat × Nat) := do
  let reply ← m.reply
  match (split '.' reply).reverse with
  | _ :: _ :: consumerSequence :: streamSequence :: _ =>
      return (← natural? streamSequence.toList, ← natural? consumerSequence.toList)
  | _ => none

/-- The last four parts of an address are numbers. -/
theorem Metadata.split_reply (m : Metadata) :
    ∃ before, split '.' m.reply = before ++
      [toString m.streamSequence, toString m.consumerSequence,
       toString (m.stored.nanosecondsSinceEpoch?.getD 0), toString m.pending] := by
  have hnumbers : ∀ part ∈ [toString m.streamSequence, toString m.consumerSequence,
      toString (m.stored.nanosecondsSinceEpoch?.getD 0), toString m.pending],
      '.' ∉ part.toList := by
    simp only [List.forall_mem_cons]
    exact ⟨point_notMem_toString_nat _, point_notMem_toString_nat _, point_notMem_toString_int _,
      point_notMem_toString_nat _, List.forall_mem_nil _⟩
  have hbefore : ["$JS", "ACK", m.stream, m.consumer, toString m.delivered] ≠ [] :=
    List.cons_ne_nil _ _
  -- the names before the numbers may have points in them; the numbers have none
  have hpoint : "." = String.singleton '.' := rfl
  refine ⟨split '.' ((String.singleton '.').intercalate
    ["$JS", "ACK", m.stream, m.consumer, toString m.delivered]), ?_⟩
  rw [← split_intercalate_append hbefore (List.cons_ne_nil _ _) hnumbers]
  unfold Metadata.reply
  rw [hpoint]
  simp only [List.cons_append, List.nil_append]

theorem Message.sequences?_eq (m : Message) (details : Metadata)
    (hreply : m.reply = some details.reply) :
    m.sequences? = some (details.streamSequence, details.consumerSequence) := by
  obtain ⟨before, hparts⟩ := details.split_reply
  unfold Message.sequences?
  rw [hreply]
  simp only [Option.bind_eq_bind, Option.bind_some, hparts, List.reverse_append,
    List.reverse_cons, List.reverse_nil, List.nil_append, List.cons_append, natural?_toString]
  rfl

end JetStream

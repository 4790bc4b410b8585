import JetStream.Proofs.Report.Grouping
import JetStream.Report.Consumer
import Mathlib.Algebra.Group.Nat.Defs

/-!
# Counts in the table of consumers

The table of consumers shows the same counts with commas or as they are.  The commas take nothing
away (`ungrouped_comma`), but a count goes through a signed number before they are set: so below
`2 ^ 63` both tables show the same number, and from there on the one with commas shows a negative
number instead (`tableRows_counts`).
-/

namespace JetStream.Report

open Consumer (Info)
open Text (wrapSigned64)

/-! ## Counts of 64 bits -/

theorem wrapSigned64_of_lt {n : Nat} (h : n < 2 ^ 63) : wrapSigned64 n = n := by
  have hsize : UInt64.size = 2 ^ 64 := rfl
  refine Int.bmod_eq_of_le ?_ ?_
  · omega
  · omega

theorem wrapSigned64_of_le {n : Nat} (hlow : 2 ^ 63 ≤ n) (hhigh : n < 2 ^ 64) :
    wrapSigned64 n = -((2 ^ 64 - n : Nat) : Int) := by
  have hsize : UInt64.size = 2 ^ 64 := rfl
  have hsame : wrapSigned64 n = Int.bmod (n - UInt64.size) UInt64.size :=
    (Int.sub_bmod_right n UInt64.size).symm
  rw [hsame, Int.bmod_eq_of_le]
  · omega
  · omega
  · omega

theorem ungrouped_commaCount_of_lt {n : Nat} (h : n < 2 ^ 63) :
    ungrouped (commaCount n) = toString n := by
  rw [commaCount, ungrouped_comma, wrapSigned64_of_lt h]
  rfl

theorem ungrouped_commaCount_of_le {n : Nat} (hlow : 2 ^ 63 ≤ n) (hhigh : n < 2 ^ 64) :
    ungrouped (commaCount n) = "-" ++ toString (2 ^ 64 - n) := by
  have hpositive : 2 ^ 64 - n ≠ 0 := by omega
  rw [commaCount, ungrouped_comma, wrapSigned64_of_le hlow hhigh]
  cases hrest : 2 ^ 64 - n with
  | zero => exact absurd hrest hpositive
  | succ m => rfl

/-- A count of 64 bits is shown as it is just in the lower half of these. -/
theorem ungrouped_commaCount_eq_iff {n : Nat} (h : n < 2 ^ 64) :
    ungrouped (commaCount n) = toString n ↔ n < 2 ^ 63 := by
  refine ⟨fun heq => Nat.lt_of_not_le fun hle => ?_, ungrouped_commaCount_of_lt⟩
  -- A sign would be the first character of a number in plain decimal.
  have hsign : (toString n).toList.head? = some '-' := by
    rw [← heq, ungrouped_commaCount_of_le hle h, String.toList_append]
    rfl
  rw [Nat.toString_eq_repr, Nat.toList_repr] at hsign
  exact absurd (Text.isDigit_of_mem_toDigits (List.mem_of_head? hsign)) (by decide)

/-! ## Columns -/

/-- The counts of a consumer that have a column of their own. -/
inductive Counter where
  | ackPending
  | redelivered
  | unprocessed
  | ackFloor
  deriving DecidableEq

namespace Counter

/-- The name of the column. -/
def title : Counter → String
  | ackPending => "Ack Pending"
  | redelivered => "Redelivered"
  | unprocessed => "Unprocessed"
  | ackFloor => "Ack Floor"

/-- The count. -/
def value (i : Info) : Counter → Nat
  | ackPending => i.ackPending
  | redelivered => i.redelivered
  | unprocessed => i.pending
  | ackFloor => i.ackFloor.stream

end Counter

/-- The cell of a row in the column of a name. -/
def cell (title : String) (row : List String) : String :=
  row.getD (tableHeader.idxOf title) ""

theorem cell_rawRow (counter : Counter) (i : Info) :
    cell counter.title (rawRow i) = toString (counter.value i) := by
  cases counter with
  | ackPending | redelivered | unprocessed | ackFloor => rfl

/-- The share that may follow a count. -/
def shareText (streamMessages : Nat) (i : Info) : Counter → String
  | .unprocessed =>
      if 0 < i.pending ∧ 0 < streamMessages then " / " ++ percent i.pending streamMessages else ""
  | _ => ""

theorem cell_formattedRow (counter : Counter) (streamMessages : Nat) (i : Info) :
    cell counter.title (formattedRow streamMessages i) =
      commaCount (counter.value i) ++ shareText streamMessages i counter := by
  cases counter with
  | ackPending | redelivered | ackFloor => exact String.append_empty.symm
  | unprocessed =>
      change unprocessedText streamMessages i.pending = commaCount i.pending ++ shareText _ _ _
      unfold unprocessedText shareText
      split
      next => rw [String.append_assoc]
      next => rw [String.append_empty]

/-! ## Both tables -/

/-- In the row of a consumer, a cell of the table for reading is a count with commas, and behind
what is not delivered its share of all messages.  Without its commas the count is the text in the
raw table just if it is less than `2 ^ 63`; a larger one is shown as what it lacks to `2 ^ 64`,
with a minus sign. -/
theorem tableRows_counts (counter : Counter) (streamMessages : Nat) {infos : List Info} {k : Nat}
    {i : Info} (hi : infos[k]? = some i) (h : counter.value i < 2 ^ 64) :
    ∃ raw formatted count,
      (tableRows streamMessages true infos)[k]? = some raw ∧
      (tableRows streamMessages false infos)[k]? = some formatted ∧
      cell counter.title raw = toString (counter.value i) ∧
      cell counter.title formatted = count ++ shareText streamMessages i counter ∧
      (ungrouped count = cell counter.title raw ↔ counter.value i < 2 ^ 63) ∧
      (2 ^ 63 ≤ counter.value i →
        ungrouped count = "-" ++ toString (2 ^ 64 - counter.value i)) := by
  refine ⟨rawRow i, formattedRow streamMessages i, commaCount (counter.value i), ?_, ?_,
    cell_rawRow counter i, cell_formattedRow counter streamMessages i, ?_,
    fun hle => ungrouped_commaCount_of_le hle h⟩
  · rw [tableRows, List.getElem?_map, hi]
    rfl
  · rw [tableRows, List.getElem?_map, hi]
    rfl
  · rw [cell_rawRow]
    exact ungrouped_commaCount_eq_iff h

/-- The first count that the table for reading shows as a negative number. -/
theorem tableRows_counts_negative :
    let i : Info :=
      { streamName := "S", name := "C", created := .epoch, config := {}, ackPending := 2 ^ 63 }
    (tableRows 100 true [i]).map (cell "Ack Pending") = ["9223372036854775808"] ∧
      (tableRows 100 false [i]).map (cell "Ack Pending") = ["-9,223,372,036,854,775,808"] ∧
      ∃ formatted count, (tableRows 100 false [i])[0]? = some formatted ∧
        cell "Ack Pending" formatted = count ++ "" ∧ ungrouped count = "-9223372036854775808" := by
  intro i
  have hi : [i][0]? = some i := rfl
  obtain ⟨-, formatted, count, -, hformatted, -, hcell, -, hnegative⟩ :=
    tableRows_counts .ackPending 100 hi (by decide)
  have htext : "-" ++ toString (2 ^ 64 - Counter.ackPending.value i) = "-9223372036854775808" := by
    decide +kernel
  refine ⟨by decide +kernel, by decide +kernel, formatted, count, hformatted, hcell, ?_⟩
  rw [hnegative (by decide)]
  exact htext

end JetStream.Report

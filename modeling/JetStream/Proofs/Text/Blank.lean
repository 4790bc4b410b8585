import JetStream.Proofs.Text.Runs
import JetStream.Text.Blank
import Mathlib.Data.List.DropRight

/-!
# Texts without blanks at their ends

Trimming takes nothing from a text without blanks, and everything from one of blanks alone.
-/

namespace JetStream.Text

/-- The characters of ASCII that show. -/
theorem isBlank_eq_false_of_shows {c : Char} (hlow : 0x20 < c.toNat) (hhigh : c.toNat < 0x7f) :
    isBlank c = false := by
  simp [isBlank, CharRanges.contains, blankRanges]
  omega

theorem isBlank_eq_false_of_isDigit {c : Char} (h : c.isDigit = true) : isBlank c = false := by
  simp only [Char.isDigit, Bool.and_eq_true, decide_eq_true_eq] at h
  have hlow : 48 ≤ c.toNat := h.1
  have hhigh : c.toNat ≤ 57 := h.2
  exact isBlank_eq_false_of_shows (by omega) (by omega)

/-- A text without blanks is trimmed already. -/
theorem trim_eq_self {s : String} (h : ∀ c ∈ s.toList, isBlank c = false) : trim s = s := by
  have hstart : trimStart s.toList = s.toList := dropWhile_eq_self h
  have hend : trimEnd s.toList = s.toList := by
    rw [trimEnd, dropWhile_eq_self fun c hc => h c (List.mem_reverse.mp hc), List.reverse_reverse]
  rw [trim, hstart, hend, String.ofList_toList]

theorem isEmpty_trim_iff (s : String) :
    (trim s).isEmpty = true ↔ ∀ c ∈ s.toList, isBlank c = true := by
  have hend (cs : List Char) : trimEnd cs = [] ↔ cs.dropWhile isBlank = [] := by
    simp [trimEnd]
  rw [trim, String.isEmpty_iff, String.ofList_eq_empty_iff, hend, trimStart,
    List.dropWhile_idempotent, List.dropWhile_eq_nil_iff]

end JetStream.Text

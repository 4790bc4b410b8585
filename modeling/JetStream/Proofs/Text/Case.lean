import JetStream.Text.Case
import Mathlib.Data.List.Forall2
import Mathlib.Data.List.Infix

/-!
# Spelling in any case

A word in lower case is what a text becomes with its capitals lowered, exactly where the text is
that word with any of its letters as capitals.  Words are also looked for inside of a text.
-/

namespace JetStream.Text

/-- A text is the word with any of its letters as capitals. -/
def IsSpelling (word s : String) : Prop :=
  List.Forall₂ (fun letter c => c = letter ∨ c = letter.toUpper) word.toList s.toList

/-! ## Letters -/

theorem bounds_of_isLower {c : Char} (h : c.isLower = true) : 97 ≤ c.toNat ∧ c.toNat ≤ 122 := by
  obtain ⟨hlow, hhigh⟩ := Bool.and_eq_true_iff.mp h
  exact ⟨of_decide_eq_true hlow, of_decide_eq_true hhigh⟩

theorem toNat_toLower (c : Char) :
    c.toLower.toNat = if 65 ≤ c.toNat ∧ c.toNat ≤ 90 then c.toNat + 32 else c.toNat := by
  unfold Char.toLower
  split
  next hc =>
    have hcapital : 65 ≤ c.toNat ∧ c.toNat ≤ 90 := hc
    rw [if_pos hcapital]
    exact Nat.mod_eq_of_lt (show c.toNat + 32 < 2 ^ 32 by omega)
  next hc => exact (if_neg hc).symm

/-- The capital of a letter, which core reaches by adding -32 modulo 2 ^ 32. -/
theorem toNat_toUpper_add {c : Char} (h : c.isLower = true) :
    c.toUpper.toNat + 32 = c.toNat := by
  have hbounds := bounds_of_isLower h
  have hsum : (c.val + 4294967264).toNat = (c.toNat + 4294967264) % 2 ^ 32 :=
    UInt32.toNat_add _ _
  have hcapital : c.toUpper.toNat = (c.val + 4294967264).toNat := by
    unfold Char.toUpper
    split
    next => rfl
    next hc => exact absurd hbounds hc
  omega

theorem toLower_eq_iff {letter c : Char} (h : letter.isLower = true) :
    c.toLower = letter ↔ c = letter ∨ c = letter.toUpper := by
  have hbounds := bounds_of_isLower h
  have hupper := toNat_toUpper_add h
  rw [← Char.toNat_inj, ← Char.toNat_inj, ← Char.toNat_inj, toNat_toLower]
  split <;> omega

/-! ## Words -/

theorem map_toLower_eq_iff {letters cs : List Char} (h : ∀ c ∈ letters, c.isLower = true) :
    cs.map Char.toLower = letters ↔
      List.Forall₂ (fun letter c => c = letter ∨ c = letter.toUpper) letters cs := by
  induction letters generalizing cs with
  | nil => rw [List.map_eq_nil_iff, List.forall₂_nil_left_iff]
  | cons letter letters ih =>
      obtain ⟨hletter, hletters⟩ := List.forall_mem_cons.mp h
      cases cs with
      | nil => exact ⟨nofun, nofun⟩
      | cons c cs =>
          rw [List.map_cons, List.cons_eq_cons, List.forall₂_cons, toLower_eq_iff hletter,
            ih hletters]

theorem lower_eq_iff {word s : String} (h : ∀ c ∈ word.toList, c.isLower = true) :
    lower s = word ↔ IsSpelling word s := by
  rw [lower, IsSpelling, ← map_toLower_eq_iff h, ← String.toList_inj, String.toList_ofList]

/-! ## Words inside of a text -/

theorem occursIn_iff (word cs : List Char) : occursIn word cs = true ↔ word <:+: cs := by
  induction cs with
  | nil => rw [occursIn, List.isEmpty_iff, List.infix_nil]
  | cons c rest ih =>
      rw [occursIn, Bool.or_eq_true, ih, List.isPrefixOf_iff_prefix, List.infix_cons_iff]

theorem occursIn_singleton_iff (c : Char) (cs : List Char) : occursIn [c] cs = true ↔ c ∈ cs := by
  rw [occursIn_iff, List.singleton_infix_iff]

end JetStream.Text

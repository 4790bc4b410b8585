import JetStream.Text.Split
import Mathlib.Data.List.Infix

/-!
# Parts put together and split again

A text that was put together from parts with a separator between them falls into these parts again
if none of them has the separator in it, and no part of a split has.  Whatever comes before a
separator, what comes after it is split on its own.
-/

namespace JetStream.Text

theorem splitChars_append_cons (separator : Char) (cs more : List Char) :
    splitChars separator (cs ++ separator :: more) =
      splitChars separator cs ++ splitChars separator more := by
  induction cs with
  | nil => simp [splitChars]
  | cons c rest ih =>
      simp only [List.cons_append, splitChars, ih]
      split
      · rfl
      · cases hrest : splitChars separator rest with
        | nil => exact absurd hrest (splitChars_ne_nil separator rest)
        | cons part parts => rfl

theorem notMem_of_mem_splitChars {separator : Char} {cs part : List Char}
    (h : part ∈ splitChars separator cs) : separator ∉ part := by
  induction cs generalizing part with
  | nil =>
      obtain rfl := List.mem_singleton.mp h
      exact List.not_mem_nil
  | cons c rest ih =>
      simp only [splitChars] at h
      split at h
      next =>
        rcases List.mem_cons.mp h with rfl | hrest
        · exact List.not_mem_nil
        · exact ih hrest
      next hc =>
        cases hparts : splitChars separator rest with
        | nil => exact absurd hparts (splitChars_ne_nil separator rest)
        | cons first parts =>
            rw [hparts] at h ih
            rcases List.mem_cons.mp h with rfl | hmem
            · exact List.not_mem_cons_of_ne_of_not_mem (Ne.symm hc) (ih List.mem_cons_self)
            · exact ih (List.mem_cons_of_mem first hmem)

/-- No part has the separator in it. -/
theorem notMem_of_mem_split {separator : Char} {s part : String} (h : part ∈ split separator s) :
    separator ∉ part.toList := by
  obtain ⟨cs, hcs, rfl⟩ := List.mem_map.mp h
  rw [String.toList_ofList]
  exact notMem_of_mem_splitChars hcs

/-- The parts of two texts with a separator between them. -/
theorem split_append (separator : Char) (s t : String) :
    split separator (s ++ String.singleton separator ++ t) =
      split separator s ++ split separator t := by
  unfold split
  rw [String.toList_append, String.toList_append, String.toList_singleton, List.append_assoc,
    List.singleton_append, splitChars_append_cons, List.map_append]

theorem split_of_notMem {separator : Char} {s : String} (h : separator ∉ s.toList) :
    split separator s = [s] := by
  unfold split
  rw [splitChars_of_notMem h, List.map_singleton, String.ofList_toList]

/-- Parts without the separator, with the separator between them, are split into these parts. -/
theorem split_intercalate {separator : Char} {parts : List String} (hparts : parts ≠ [])
    (h : ∀ part ∈ parts, separator ∉ part.toList) :
    split separator ((String.singleton separator).intercalate parts) = parts := by
  induction parts with
  | nil => exact absurd rfl hparts
  | cons part rest ih =>
      obtain ⟨hpart, hrest⟩ := List.forall_mem_cons.mp h
      cases rest with
      | nil =>
          rw [String.intercalate_singleton]
          exact split_of_notMem hpart
      | cons next rest =>
          rw [String.intercalate_cons_cons, split_append, split_of_notMem hpart,
            ih (List.cons_ne_nil next rest) hrest]
          rfl

theorem split_ne_nil (separator : Char) (s : String) : split separator s ≠ [] := by
  unfold split
  rw [ne_eq, List.map_eq_nil_iff]
  exact splitChars_ne_nil separator s.toList

theorem intercalate_splitChars (separator : Char) (cs : List Char) :
    [separator].intercalate (splitChars separator cs) = cs := by
  induction cs with
  | nil => rfl
  | cons c rest ih =>
      simp only [splitChars]
      split
      next hc =>
        rw [List.intercalate_cons_of_ne_nil (splitChars_ne_nil separator rest), ih, hc]
        rfl
      next =>
        split
        next hrest => exact absurd hrest (splitChars_ne_nil separator rest)
        next part parts hrest =>
          rw [hrest] at ih
          cases parts with
          | nil => simpa using ih
          | cons next parts => simpa using ih

/-- The parts with the separator between them make the text again. -/
theorem intercalate_split (separator : Char) (s : String) :
    (String.singleton separator).intercalate (split separator s) = s := by
  refine String.toList_inj.mp ?_
  have hparts : (split separator s).map String.toList = splitChars separator s.toList := by
    simp [split, Function.comp_def]
  rw [String.toList_intercalate, hparts, String.toList_singleton, intercalate_splitChars]

/-- Parts without the separator are found at the front, whatever comes after them. -/
theorem split_intercalate_append_of_front {separator : Char} {parts after : List String}
    (hafter : after ≠ []) (h : ∀ part ∈ parts, separator ∉ part.toList) :
    split separator ((String.singleton separator).intercalate (parts ++ after)) =
      parts ++ split separator ((String.singleton separator).intercalate after) := by
  induction parts with
  | nil => rfl
  | cons part rest ih =>
      obtain ⟨hpart, hrest⟩ := List.forall_mem_cons.mp h
      rw [List.cons_append,
        String.intercalate_cons_of_ne_nil (List.append_ne_nil_of_right_ne_nil rest hafter),
        split_append, split_of_notMem hpart, ih hrest]
      rfl

/-- Parts without the separator are found at the end, whatever stands before them. -/
theorem split_intercalate_append {separator : Char} {before parts : List String}
    (hbefore : before ≠ []) (hparts : parts ≠ []) (h : ∀ part ∈ parts, separator ∉ part.toList) :
    split separator ((String.singleton separator).intercalate (before ++ parts)) =
      split separator ((String.singleton separator).intercalate before) ++ parts := by
  rw [String.intercalate_append_of_ne_nil hbefore hparts, split_append, split_intercalate hparts h]

/-! ## What occurs in a text -/

/-- Outside of a separator, the first character goes with the first part of what follows. -/
theorem exists_splitChars_cons {separator c : Char} (hc : c ≠ separator) (rest : List Char) :
    ∃ part parts, splitChars separator rest = part :: parts ∧
      splitChars separator (c :: rest) = (c :: part) :: parts := by
  obtain ⟨part, parts, hparts⟩ := List.exists_cons_of_ne_nil (splitChars_ne_nil separator rest)
  exact ⟨part, parts, hparts, by simp [splitChars, hc, hparts]⟩

theorem prefix_of_splitChars_eq_cons {separator : Char} {cs part : List Char}
    {parts : List (List Char)} (h : splitChars separator cs = part :: parts) : part <+: cs := by
  induction cs generalizing part parts with
  | nil =>
      cases h
      exact List.nil_prefix
  | cons c rest ih =>
      by_cases hc : c = separator
      · rw [splitChars, if_pos hc] at h
        cases h
        exact List.nil_prefix
      · obtain ⟨part', parts', hrest, hcons⟩ := exists_splitChars_cons hc rest
        cases h.symm.trans hcons
        exact (List.prefix_cons_inj c).mpr (ih hrest)

theorem prefix_head_splitChars {separator : Char} {word cs part : List Char}
    {parts : List (List Char)} (hword : separator ∉ word) (hfront : word <+: cs)
    (h : splitChars separator cs = part :: parts) : word <+: part := by
  induction cs generalizing word part parts with
  | nil =>
      rw [List.prefix_nil.mp hfront]
      exact List.nil_prefix
  | cons c rest ih =>
      cases word with
      | nil => exact List.nil_prefix
      | cons first word =>
          obtain ⟨rfl, hrestPrefix⟩ := List.cons_prefix_cons.mp hfront
          obtain ⟨hc, hword⟩ := List.ne_and_not_mem_of_not_mem_cons hword
          obtain ⟨part', parts', hrest, hcons⟩ := exists_splitChars_cons (Ne.symm hc) rest
          cases h.symm.trans hcons
          exact (List.prefix_cons_inj first).mpr (ih hword hrestPrefix hrest)

/-- A word without the separator occurs in a text if it occurs in one of the parts. -/
theorem infix_iff_exists_splitChars {separator : Char} {word : List Char} (hword : separator ∉ word)
    (cs : List Char) : word <:+: cs ↔ ∃ part ∈ splitChars separator cs, word <:+: part := by
  induction cs with
  | nil => simp [splitChars]
  | cons c rest ih =>
      rw [List.infix_cons_iff, ih]
      -- At a separator no word begins but the empty one; elsewhere the first part gets longer.
      by_cases hc : c = separator
      · rw [splitChars, if_pos hc, List.exists_mem_cons_iff, List.infix_nil]
        refine or_congr_left ⟨fun h => ?_, fun h => h ▸ List.nil_prefix⟩
        cases word with
        | nil => rfl
        | cons first word =>
            exact absurd ((List.cons_prefix_cons.mp h).1.trans hc)
              (List.ne_and_not_mem_of_not_mem_cons hword).1.symm
      · obtain ⟨part, parts, hrest, hcons⟩ := exists_splitChars_cons hc rest
        rw [hrest, hcons, List.exists_mem_cons_iff, List.exists_mem_cons_iff, List.infix_cons_iff,
          or_assoc]
        refine or_congr_left ⟨fun h => prefix_head_splitChars hword h hcons, fun h => ?_⟩
        exact h.trans (prefix_of_splitChars_eq_cons hcons)

end JetStream.Text

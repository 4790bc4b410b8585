/-!
# Collections by name

A collection of values under names that do not repeat, kept as a list in ascending order of the
names.  The order is the one of code points.
-/

namespace JetStream

/-- Values under names, in ascending order of the names. -/
abbrev NameMap (α : Type) := List (String × α)

namespace NameMap

variable {α : Type}

/-- The value under a name. -/
def get? (m : NameMap α) (name : String) : Option α :=
  (m.find? fun entry => entry.1 == name).map (·.2)

/-- Puts a value under a name, in the place of the one that was there. -/
def insert (name : String) (value : α) : NameMap α → NameMap α
  | [] => [(name, value)]
  | entry :: rest =>
      if name < entry.1 then (name, value) :: entry :: rest
      else if name = entry.1 then (name, value) :: rest
      else entry :: insert name value rest

/-- Takes out what is under a name. -/
def erase (m : NameMap α) (name : String) : NameMap α :=
  m.filter fun entry => entry.1 != name

/-- Changes the value under a name. -/
def modify (m : NameMap α) (name : String) (f : α → α) : NameMap α :=
  m.map fun entry => if entry.1 = name then (entry.1, f entry.2) else entry

/-- The names. -/
def names (m : NameMap α) : List String :=
  m.map (·.1)

/-- The values, each under the last name it was given. -/
def ofList (entries : List (String × α)) : NameMap α :=
  entries.foldl (fun m entry => insert entry.1 entry.2 m) []

/-! ## What each operation does to the values -/

@[simp] theorem get?_nil (name : String) : get? ([] : NameMap α) name = none := rfl

theorem get?_cons (entry : String × α) (m : NameMap α) (name : String) :
    get? (entry :: m) name = if entry.1 = name then some entry.2 else get? m name := by
  by_cases h : entry.1 = name
  · simp [get?, h]
  · have hne : (entry.1 == name) = false := beq_false_of_ne h
    simp [get?, hne, h]

theorem get?_insert (name other : String) (value : α) (m : NameMap α) :
    get? (insert name value m) other = if name = other then some value else get? m other := by
  induction m with
  | nil => simp [insert, get?_cons]
  | cons entry rest ih =>
      simp only [insert]
      split
      · rw [get?_cons]
      · split
        · rename_i heq
          rw [get?_cons, get?_cons, heq]
          by_cases h : entry.1 = other <;> simp [h]
        · rename_i hne
          rw [get?_cons, get?_cons, ih]
          by_cases h : entry.1 = other
          · have hother : name ≠ other := fun hname => hne (hname.trans h.symm)
            simp [h, hother]
          · simp [h]

theorem get?_modify (name other : String) (f : α → α) (m : NameMap α) :
    get? (m.modify name f) other = (get? m other).map fun value =>
      if name = other then f value else value := by
  induction m with
  | nil => rfl
  | cons entry rest ih =>
      simp only [modify, List.map_cons] at ih ⊢
      rw [get?_cons, get?_cons, ih]
      by_cases hname : entry.1 = name
      · by_cases hother : entry.1 = other
        · simp [← hname, hother]
        · simp [hname, hname ▸ hother]
      · by_cases hother : entry.1 = other
        · have hne : name ≠ other := fun h => hname (hother.trans h.symm)
          rw [if_neg hname, if_pos hother, if_pos hother]
          simp [hne]
        · rw [if_neg hname, if_neg hother, if_neg hother]

theorem get?_erase (name other : String) (m : NameMap α) :
    get? (m.erase name) other = if name = other then none else get? m other := by
  induction m with
  | nil => simp [erase]
  | cons entry rest ih =>
      simp only [erase, List.filter_cons, bne_iff_ne, ne_eq] at ih ⊢
      by_cases hname : entry.1 = name
      · rw [if_neg (by simp [hname]), ih, get?_cons, hname]
        by_cases h : name = other <;> simp [h]
      · rw [if_pos (by simp [hname]), get?_cons, get?_cons, ih]
        by_cases hother : entry.1 = other
        · have hne : name ≠ other := fun h => hname (hother.trans h.symm)
          simp [hother, hne]
        · simp [hother]

theorem names_modify (name : String) (f : α → α) (m : NameMap α) :
    (m.modify name f).names = m.names := by
  simp only [names, modify, List.map_map]
  exact List.map_congr_left fun entry _ => by
    by_cases h : entry.1 = name <;> simp [h]

/-! ## The order of the names -/

theorem insert_names_subset (name : String) (value : α) (m : NameMap α) :
    ∀ other ∈ (insert name value m).names, other = name ∨ other ∈ m.names := by
  induction m with
  | nil => simp [insert, names]
  | cons entry rest ih =>
      intro other hother
      simp only [insert] at hother
      split at hother
      · simpa [names] using hother
      · split at hother
        · simp only [names, List.map_cons, List.mem_cons] at hother ⊢
          rcases hother with hother | hother
          · exact Or.inl hother
          · exact Or.inr (Or.inr hother)
        · simp only [names, List.map_cons, List.mem_cons] at hother ⊢
          rcases hother with hother | hother
          · exact Or.inr (Or.inl hother)
          · rcases ih other hother with hname | hrest
            · exact Or.inl hname
            · exact Or.inr (Or.inr hrest)

/-- The names ascend. -/
def Ascending (m : NameMap α) : Prop :=
  m.names.Pairwise (· < ·)

theorem ascending_insert (name : String) (value : α) {m : NameMap α} (h : m.Ascending) :
    Ascending (insert name value m) := by
  induction m with
  | nil => simp [insert, Ascending, names]
  | cons entry rest ih =>
      simp only [Ascending, names, List.map_cons, List.pairwise_cons] at h
      obtain ⟨hfirst, hrest⟩ := h
      simp only [insert]
      split
      · rename_i hlt
        simp only [Ascending, names, List.map_cons, List.pairwise_cons]
        refine ⟨?_, hfirst, hrest⟩
        intro other hother
        rcases List.mem_cons.mp hother with heq | hother
        · exact heq ▸ hlt
        · exact String.lt_trans hlt (hfirst other hother)
      · split
        · rename_i heq
          simp only [Ascending, names, List.map_cons, List.pairwise_cons]
          exact ⟨fun other hother => heq ▸ hfirst other hother, hrest⟩
        · rename_i hnlt hne
          simp only [Ascending, names, List.map_cons, List.pairwise_cons]
          refine ⟨?_, ih hrest⟩
          intro other hother
          rcases insert_names_subset name value rest other hother with heq | hother
          · have hle : entry.1 ≤ name := String.not_lt.mp hnlt
            rw [heq]
            exact Decidable.byContradiction fun hnot =>
              hne (String.le_antisymm (String.not_lt.mp hnot) hle)
          · exact hfirst other hother

theorem ascending_ofList (entries : List (String × α)) : Ascending (ofList entries) := by
  have general : ∀ (entries : List (String × α)) (m : NameMap α), m.Ascending →
      Ascending (entries.foldl (fun m entry => insert entry.1 entry.2 m) m) := by
    intro entries
    induction entries with
    | nil => exact fun _ h => h
    | cons entry rest ih => exact fun m h => ih _ (ascending_insert entry.1 entry.2 h)
  exact general entries [] List.Pairwise.nil

end NameMap

end JetStream

import JetStream.NameMap

/-!
# The entries of a collection

What changes of a collection by name do to a single look-up and to the order of the names, beyond
the equations that stand beside the operations.
-/

namespace JetStream.NameMap

variable {α β : Type} {m : NameMap α} {name : String} {value : α}

/-! ## Look-ups and entries -/

theorem get?_append (first second : List (String × α)) (name : String) :
    get? (first ++ second) name = (get? first name).or (get? second name) := by
  rw [get?, get?, get?, List.find?_append, Option.map_or]

theorem get?_eq_none {m : List (String × α)} (h : name ∉ m.map (·.1)) : get? m name = none := by
  induction m with
  | nil => rfl
  | cons entry rest ih =>
      simp only [List.map_cons, List.mem_cons, not_or] at h
      rw [get?_cons, if_neg (Ne.symm h.1), ih h.2]

theorem isSome_get?_iff {m : List (String × α)} :
    (get? m name).isSome ↔ name ∈ m.map (·.1) := by
  simp only [get?, Option.isSome_map, List.find?_isSome, beq_iff_eq, List.mem_map]

theorem nodup_names (hm : m.Ascending) : (m.map (·.1)).Nodup := by
  refine List.Pairwise.imp ?_ hm
  rintro first second hlt rfl
  exact String.lt_irrefl _ hlt

/-- Names do not repeat, so an entry is what its name stands for. -/
theorem get?_of_mem (hm : m.Ascending) (h : (name, value) ∈ m) : m.get? name = some value := by
  induction m with
  | nil => exact nomatch h
  | cons entry rest ih =>
      obtain ⟨hfirst, hrest⟩ := List.pairwise_cons.mp hm
      rw [get?_cons]
      rcases List.mem_cons.mp h with heq | hmem
      · rw [← heq, if_pos rfl]
      · have hne : entry.1 ≠ name := by
          intro heq
          have hlt : entry.1 < name := hfirst name (List.mem_map_of_mem hmem)
          exact String.lt_irrefl name (heq ▸ hlt)
        rw [if_neg hne]
        exact ih hrest hmem

theorem mem_of_get? (h : m.get? name = some value) : (name, value) ∈ m := by
  obtain ⟨entry, hfind, rfl⟩ := Option.map_eq_some_iff.mp h
  obtain rfl : entry.1 = name := by simpa using List.find?_some hfind
  exact List.mem_of_find?_eq_some hfind

/-- A look-up after a change of all values that keeps the names. -/
theorem get?_map {f : String × α → String × β} (hf : ∀ entry, (f entry).1 = entry.1)
    (m : NameMap α) (name : String) :
    get? (m.map f) name = (m.get? name).map fun value => (f (name, value)).2 := by
  induction m with
  | nil => rfl
  | cons entry rest ih =>
      rw [List.map_cons, get?_cons, get?_cons, hf, ih]
      by_cases hname : entry.1 = name
      · rw [if_pos hname, if_pos hname, ← hname]
        rfl
      · rw [if_neg hname, if_neg hname]

theorem get?_map_values (f : String × α → β) (m : NameMap α) (name : String) :
    get? (m.map fun entry => (entry.1, f entry)) name =
      (m.get? name).map fun value => f (name, value) :=
  get?_map (f := fun entry => (entry.1, f entry)) (fun _ => rfl) m name

/-- Where the entries under other names give nothing, only the one under this name counts. -/
theorem flatMap_eq_of_get? {f : String × α → List β} (hm : m.Ascending)
    (hother : ∀ entry ∈ m, entry.1 ≠ name → f entry = []) :
    m.flatMap f = ((m.get? name).map fun value => f (name, value)).getD [] := by
  induction m with
  | nil => rfl
  | cons entry rest ih =>
      obtain ⟨hfirst, hrest⟩ := List.pairwise_cons.mp hm
      obtain ⟨hentry, hother'⟩ := List.forall_mem_cons.mp hother
      rw [List.flatMap_cons, get?_cons]
      by_cases hname : entry.1 = name
      · have hnothing : rest.flatMap f = [] := by
          refine List.flatMap_eq_nil_iff.mpr fun other hmem => hother' other hmem ?_
          intro heq
          have hlt : entry.1 < other.1 := hfirst other.1 (List.mem_map_of_mem hmem)
          exact String.lt_irrefl name (by rwa [hname, heq] at hlt)
        rw [if_pos hname, hnothing, List.append_nil, ← hname]
        rfl
      · rw [if_neg hname, hentry hname, List.nil_append]
        exact ih hrest hother'

/-! ## Collections made of a list of entries -/

theorem get?_foldl_insert (entries : List (String × α)) (m : NameMap α) (name : String) :
    get? (entries.foldl (fun m entry => insert entry.1 entry.2 m) m) name =
      (get? entries.reverse name).or (get? m name) := by
  induction entries generalizing m with
  | nil => rfl
  | cons entry rest ih =>
      rw [List.foldl_cons, ih, get?_insert, List.reverse_cons, get?_append, Option.or_assoc,
        get?_cons, get?_nil]
      split
      · rfl
      · rfl

/-- Of entries under one name the last counts. -/
theorem get?_ofList_eq_reverse (entries : List (String × α)) (name : String) :
    get? (ofList entries) name = get? entries.reverse name := by
  rw [ofList, get?_foldl_insert, get?_nil, Option.or_none]

/-- Where no name is given twice, the order of the entries makes no difference. -/
theorem get?_ofList {entries : List (String × α)} (h : (entries.map (·.1)).Nodup)
    (name : String) : get? (ofList entries) name = get? entries name := by
  rw [get?_ofList_eq_reverse]
  induction entries with
  | nil => rfl
  | cons entry rest ih =>
      obtain ⟨hfirst, hrest⟩ := List.nodup_cons.mp h
      rw [List.reverse_cons, get?_append, ih hrest, get?_cons, get?_cons, get?_nil]
      by_cases hname : entry.1 = name
      · have hnone : get? rest name = none := get?_eq_none (hname ▸ hfirst)
        rw [hnone, Option.none_or]
      · rw [if_neg hname, if_neg hname, Option.or_none]

/-- A collection of a single value is made of a single entry, if no name is given twice. -/
theorem eq_singleton_of_ofList {entries : List (String × α)} (h : (entries.map (·.1)).Nodup)
    (hone : ofList entries = [(name, value)]) : entries = [(name, value)] := by
  have hnames : ∀ other ∈ entries.map (·.1), other = name := by
    intro other hother
    rw [← isSome_get?_iff, ← get?_ofList h, hone, get?_cons, get?_nil] at hother
    split at hother
    next heq => exact heq.symm
    next => cases hother
  match entries, h, hone, hnames with
  | [], _, hone, _ => exact nomatch hone
  | [entry], _, hone, _ => exact hone
  | first :: second :: rest, h, _, hnames =>
      obtain ⟨hfirst, -⟩ := List.nodup_cons.mp h
      have hsame : first.1 = second.1 :=
        (hnames _ List.mem_cons_self).trans
          (hnames _ (List.mem_cons_of_mem _ List.mem_cons_self)).symm
      exact absurd (List.mem_cons.mpr (.inl hsame)) hfirst

theorem get?_filter {p : String → Bool} (hp : p name = true) (entries : List (String × α)) :
    get? (entries.filter fun entry => p entry.1) name = get? entries name := by
  induction entries with
  | nil => rfl
  | cons entry rest ih =>
      rw [List.filter_cons, get?_cons]
      split
      next => rw [get?_cons, ih]
      next hentry =>
        have hne : entry.1 ≠ name := fun heq => hentry (heq ▸ hp)
        rw [ih, if_neg hne]

/-- Where the names of one kind are given once, what stands under them does not depend on the other
names. -/
theorem get?_ofList_of_nodup_filter {p : String → Bool} {entries : List (String × α)}
    (h : ((entries.map (·.1)).filter p).Nodup) (hp : p name = true) :
    get? (ofList entries) name = get? entries name := by
  have hnodup : ((entries.filter fun entry => p entry.1).map (·.1)).Nodup := by
    rw [List.filter_map] at h
    exact h
  calc get? (ofList entries) name
      = get? (entries.filter fun entry => p entry.1).reverse name := by
        rw [get?_ofList_eq_reverse, ← get?_filter hp entries.reverse, List.filter_reverse]
    _ = get? (entries.filter fun entry => p entry.1) name := by
        rw [← get?_ofList_eq_reverse, get?_ofList hnodup]
    _ = get? entries name := get?_filter hp entries

/-- A collection has no entries but those it is made of. -/
theorem mem_of_mem_ofList {entries : List (String × α)} (h : (name, value) ∈ ofList entries) :
    (name, value) ∈ entries := by
  have hget := get?_of_mem (ascending_ofList entries) h
  rw [get?_ofList_eq_reverse] at hget
  exact List.mem_reverse.mp (mem_of_get? hget)

theorem mem_names_of_mem_ofList {entries : List (String × α)} {name : String}
    (h : name ∈ names (ofList entries)) : name ∈ entries.map (·.1) := by
  obtain ⟨entry, hentry, rfl⟩ := List.mem_map.mp h
  exact List.mem_map_of_mem (mem_of_mem_ofList hentry)

/-! ## The order of the names -/

theorem names_map {f : String × α → String × β} (hf : ∀ entry, (f entry).1 = entry.1)
    (m : NameMap α) : names (m.map f) = m.names := by
  unfold names
  rw [List.map_map]
  exact List.map_congr_left fun entry _ => hf entry

theorem names_map_values (f : String × α → β) (m : NameMap α) :
    names (m.map fun entry => (entry.1, f entry)) = m.names :=
  names_map (f := fun entry => (entry.1, f entry)) (fun _ => rfl) m

theorem ascending_map {f : String × α → String × β} (hf : ∀ entry, (f entry).1 = entry.1)
    (hm : m.Ascending) : Ascending (m.map f) := by
  unfold Ascending
  rw [names_map hf]
  exact hm

theorem ascending_modify (name : String) (f : α → α) (hm : m.Ascending) :
    Ascending (m.modify name f) := by
  unfold Ascending
  rw [names_modify]
  exact hm

theorem ascending_erase (name : String) (hm : m.Ascending) : Ascending (m.erase name) :=
  List.Pairwise.sublist (List.filter_sublist.map _) hm

/-- The first entry with a property is the one under the least name. -/
theorem le_of_find? (hm : m.Ascending) {p : α → Bool}
    (hfind : m.find? (fun entry => p entry.2) = some (name, value)) {other : String} {value' : α}
    (hother : m.get? other = some value') (hp : p value' = true) : name ≤ other := by
  obtain ⟨-, earlier, later, rfl, hearlier⟩ := List.find?_eq_some_iff_append.mp hfind
  obtain ⟨-, hrest, -⟩ := List.pairwise_append.mp (List.pairwise_map.mp hm)
  have hlater := (List.pairwise_cons.mp hrest).1
  rcases List.mem_append.mp (mem_of_get? hother) with hmem | hmem
  · have hfails := hearlier _ hmem
    rw [hp] at hfails
    exact nomatch hfails
  · rcases List.mem_cons.mp hmem with heq | hmem
    · cases heq
      exact String.le_refl name
    · exact String.not_lt.mp (String.lt_asymm (hlater _ hmem))

/-- Collections are the same if their look-ups are. -/
theorem eq_of_get?_eq {m' : NameMap α} (hm : m.Ascending) (hm' : m'.Ascending)
    (h : ∀ name, m.get? name = m'.get? name) : m = m' := by
  have hpairwise : m.Pairwise fun first second => first.1 < second.1 := List.pairwise_map.mp hm
  have hpairwise' : m'.Pairwise fun first second => first.1 < second.1 := List.pairwise_map.mp hm'
  have hne {first second : String × α} (hlt : first.1 < second.1) : first ≠ second := by
    rintro rfl
    exact String.lt_irrefl first.1 hlt
  have hmem : ∀ entry, entry ∈ m ↔ entry ∈ m' := by
    rintro ⟨name, value⟩
    constructor
    · intro hentry
      exact mem_of_get? ((h name).symm.trans (get?_of_mem hm hentry))
    · intro hentry
      exact mem_of_get? ((h name).trans (get?_of_mem hm' hentry))
  have hperm : m.Perm m' :=
    (List.perm_ext_iff_of_nodup (hpairwise.imp hne) (hpairwise'.imp hne)).mpr hmem
  exact hperm.eq_of_pairwise
    (fun first second _ _ hlt hgt => absurd hgt (String.lt_asymm hlt)) hpairwise hpairwise'

end JetStream.NameMap

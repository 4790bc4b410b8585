import JetStream.Proofs.Json.RoundTrip
import JetStream.Proofs.NameMap.Entries

/-!
# Values as they stand, and arranged

A text can be read with the members of its objects as they stand there, repetitions included, or
with the members arranged.  Whether there is a value at all does not depend on that.

* `Written.value?_eq_map_arranged`: the arranged value is the value as it stands, arranged
  afterwards.
* `Record.ofWritten?_of_value?`: a record read directly off the written form is the record of the
  value as it stands.
* `Record.isArranged_ofJson?`: arranging the value leaves the record its fields.

The last two are about values that give no field twice.
-/

namespace JetStream.Json

variable (arrange : List (String × Json) → List (String × Json))

/-! ## Arranging afterwards -/

private theorem eq_decimal_of_decimal? {text : List Char} {value : Json}
    (h : decimal? text = some value) : value = .decimal (String.ofList text) := by
  unfold decimal? at h
  dsimp only at h
  split at h
  all_goals exact (Option.some.inj (Option.ite_none_right_eq_some.mp h).2).symm

/-- What is written as a number has a number as its value. -/
theorem integer_or_decimal_of_number? {text : List Char} {value : Json}
    (h : number? text = some value) :
    (∃ n, value = .integer n) ∨ ∃ text, value = .decimal text := by
  unfold number? at h
  split at h
  all_goals
    split at h
    · exact .inl ⟨_, (Option.some.inj h).symm⟩
    · exact .inr ⟨_, eq_decimal_of_decimal? h⟩

namespace Written

mutual

/-- The arranged value of a written form is its value as it stands, arranged. -/
theorem value?_eq_map_arranged : ∀ (value : Written) (levels : Nat),
    value.value? arrange levels = (value.value? id levels).map (arranged arrange)
  | .null, _ => rfl
  | .bool _, _ => rfl
  | .number text, _ => by
      rw [value?, value?]
      cases hnumber : number? text with
      | none => rfl
      | some value =>
          rcases integer_or_decimal_of_number? hnumber with ⟨n, rfl⟩ | ⟨text, rfl⟩
          · rfl
          · rfl
  | .string parts, _ => by
      rw [value?, value?, Option.map_map]
      rfl
  | .array items, levels => by
      rw [value?, value?, itemValues?_eq_map_arranged items (levels - 1)]
      split
      · rfl
      · rw [Option.map_map, Option.map_map]
        rfl
  | .object members, levels => by
      rw [value?, value?, memberValues?_eq_map_arranged members (levels - 1)]
      split
      · rfl
      · rw [Option.map_map, Option.map_map]
        rfl

theorem itemValues?_eq_map_arranged : ∀ (items : List Written) (levels : Nat),
    itemValues? arrange levels items =
      (itemValues? id levels items).map (arrangedItems arrange)
  | [], _ => rfl
  | item :: items, levels => by
      rw [itemValues?, itemValues?, value?_eq_map_arranged item levels,
        itemValues?_eq_map_arranged items levels]
      cases item.value? id levels with
      | none => rfl
      | some value =>
          cases itemValues? id levels items with
          | none => rfl
          | some values => rfl

theorem memberValues?_eq_map_arranged : ∀ (members : List (List StringPart × Written))
    (levels : Nat),
    memberValues? arrange levels members =
      (memberValues? id levels members).map (arrangedMembers arrange)
  | [], _ => rfl
  | (name, member) :: members, levels => by
      rw [memberValues?, memberValues?, value?_eq_map_arranged member levels,
        memberValues?_eq_map_arranged members levels]
      cases string? name with
      | none => rfl
      | some name =>
          cases member.value? id levels with
          | none => rfl
          | some value =>
              cases memberValues? id levels members with
              | none => rfl
              | some values => rfl

end

end Written

/-- The value of a whole text with the members of objects as they stand there. -/
def verbatim? (text : String) : Option Json :=
  match Written.read (Token.scan text.toList) with
  | some (written, []) => written.value? id maxDepth
  | _ => none

theorem parse?_eq_map_verbatim? (text : String) :
    parse? text = (verbatim? text).map (arranged NameMap.ofList) := by
  unfold parse? verbatim?
  cases Written.read (Token.scan text.toList) with
  | none => rfl
  | some found =>
      obtain ⟨written, rest⟩ := found
      cases rest with
      | nil => exact written.value?_eq_map_arranged NameMap.ofList maxDepth
      | cons token rest => rfl

/-! ## What arranging leaves alone -/

theorem arrangedItems_eq_map (items : List Json) :
    arrangedItems arrange items = items.map (arranged arrange) := by
  induction items with
  | nil => rfl
  | cons item items ih => rw [arrangedItems, List.map_cons, ih]

theorem arrangedMembers_eq_map (members : List (String × Json)) :
    arrangedMembers arrange members =
      members.map fun member => (member.1, arranged arrange member.2) := by
  induction members with
  | nil => rfl
  | cons member members ih => rw [arrangedMembers, List.map_cons, ih]

theorem names_arrangedMembers (members : List (String × Json)) :
    (arrangedMembers arrange members).map (·.1) = members.map (·.1) := by
  rw [arrangedMembers_eq_map]
  exact NameMap.names_map_values _ members

theorem get?_arrangedMembers (members : List (String × Json)) (name : String) :
    NameMap.get? (arrangedMembers arrange members) name =
      (NameMap.get? members name).map (arranged arrange) := by
  rw [arrangedMembers_eq_map]
  exact NameMap.get?_map_values (fun member => arranged arrange member.2) members name

theorem arranged_eq_null_iff {value : Json} : arranged arrange value = .null ↔ value = .null := by
  cases value with
  | null => exact Iff.rfl
  | _ => simp [arranged]

/-- A reader comes to the same whether or not what it reads was arranged. -/
def IsBlind {α : Type} (read : Json → Option α) : Prop :=
  ∀ value, read (arranged arrange value) = read value

theorem isBlind_asString? : IsBlind arrange asString? := by
  intro value
  cases value with
  | _ => rfl

theorem isBlind_asInteger? (low high : Int) : IsBlind arrange (asInteger? low high) := by
  intro value
  cases value with
  | _ => rfl

theorem isBlind_asUnsigned64? : IsBlind arrange asUnsigned64? := by
  intro value
  unfold asUnsigned64? asUnsigned?
  rw [isBlind_asInteger? arrange]

theorem isBlind_asSigned64? : IsBlind arrange asSigned64? :=
  isBlind_asInteger? arrange _ _

variable {arrange}

theorem IsBlind.optional? {α : Type} {read : Json → Option α} (h : IsBlind arrange read) :
    IsBlind arrange (optional? read) := by
  intro value
  have hread := h value
  cases value with
  | null => rfl
  | _ => exact congrArg (Option.map some) hread

/-! ## Records -/

namespace Record

variable {fields : List String}

private theorem knownMembers?_of_memberValues? {members : List (List StringPart × Written)}
    {values : List (String × Json)}
    (h : Written.memberValues? id (maxDepth - 1) members = some values) :
    knownMembers? fields members = some (values.filter fun member => fields.contains member.1) := by
  induction members generalizing values with
  | nil =>
      cases h
      rfl
  | cons entry members ih =>
      obtain ⟨name, member⟩ := entry
      rw [Written.memberValues?] at h
      obtain ⟨name', hname, h⟩ := Option.bind_eq_some_iff.mp h
      obtain ⟨value, hvalue, h⟩ := Option.bind_eq_some_iff.mp h
      obtain ⟨rest, hrest, h⟩ := Option.bind_eq_some_iff.mp h
      cases h
      rw [knownMembers?, hname, ih hrest, List.filter_cons]
      simp only [Option.bind_eq_bind, Option.bind_some, hvalue]
      split
      · rfl
      · rfl

/-- A value gives each of the fields at most once. -/
def GivesOnce (fields : List String) : Json → Prop
  | .object members => ((members.map (·.1)).filter fields.contains).Nodup
  | _ => True

/-- Where all of a text has a value, reading the record directly comes to the record of the value as
it stands, as long as no field is given twice. -/
theorem ofWritten?_of_value? {written : Written} {value : Json}
    (h : written.value? id maxDepth = some value) (honce : GivesOnce fields value) :
    ofWritten? fields written = ofJson? fields value := by
  cases written with
  | null | bool truth =>
      cases h
      rfl
  | number text =>
      rcases integer_or_decimal_of_number? h with ⟨n, rfl⟩ | ⟨text, rfl⟩
      · rfl
      · rfl
  | string parts =>
      obtain ⟨s, -, rfl⟩ := Option.map_eq_some_iff.mp h
      rfl
  | array items =>
      rw [Written.value?, if_neg (by decide)] at h
      obtain ⟨values, hvalues, rfl⟩ := Option.map_eq_some_iff.mp h
      rw [ofWritten?, hvalues]
      rfl
  | object members =>
      rw [Written.value?, if_neg (by decide)] at h
      obtain ⟨values, hvalues, rfl⟩ := Option.map_eq_some_iff.mp h
      have hnodup : ((values.filter fun member => fields.contains member.1).map (·.1)).Nodup := by
        have hmap := List.filter_map (f := fun member : String × Json => member.1)
          (p := fields.contains) (l := values)
        exact hmap ▸ honce
      rw [ofWritten?, knownMembers?_of_memberValues? hvalues]
      simp only [Option.bind_eq_bind, Option.bind_some, if_pos hnodup]
      rfl

/-- A record after its value was arranged: the same fields, arranged inside. -/
structure IsArranged (fields : List String) (r r' : Record) : Prop where
  surplus : r'.surplus = r.surplus
  get? : ∀ name ∈ fields, r'.get? name = (r.get? name).map (arranged NameMap.ofList)

/-- An arranged value gives the same fields as before, if none of them was given twice. -/
theorem isArranged_ofJson? {value : Json} (honce : GivesOnce fields value) :
    Option.Rel (IsArranged fields) (ofJson? fields value)
      (ofJson? fields (arranged NameMap.ofList value)) := by
  cases value with
  | null | bool truth | integer n | decimal text | string s => exact .none
  | array items =>
      refine .some ⟨?_, fun name _ => ?_⟩
      · simp only [ofItems, arrangedItems_eq_map, List.length_map]
      · show NameMap.get? (fields.zip (arrangedItems NameMap.ofList items)) name = _
        rw [arrangedItems_eq_map, List.zip_map_right]
        exact NameMap.get?_map_values (fun entry => arranged NameMap.ofList entry.2) _ name
  | object members =>
      refine .some ⟨rfl, fun name hname => ?_⟩
      have hknown : fields.contains name = true := List.elem_eq_true_of_mem hname
      have honce' : (((arrangedMembers NameMap.ofList members).map (·.1)).filter
          fields.contains).Nodup := by
        rw [names_arrangedMembers]
        exact honce
      show NameMap.get? ((NameMap.ofList (arrangedMembers NameMap.ofList members)).filter
          fun member => fields.contains member.1) name =
        (NameMap.get? (members.filter fun member => fields.contains member.1) name).map _
      rw [NameMap.get?_filter hknown, NameMap.get?_filter hknown,
        NameMap.get?_ofList_of_nodup_filter honce' hknown, get?_arrangedMembers]

/-- A field is read alike before and after, if its reader is blind to the arrangement. -/
theorem IsArranged.read_eq {α : Type} {r r' : Record} (h : IsArranged fields r r') {name : String}
    (hname : name ∈ fields) (default : α) {read : Json → Option α}
    (hblind : IsBlind NameMap.ofList read) :
    r'.read name default read = r.read name default read := by
  unfold Record.read
  rw [h.get? name hname]
  cases r.get? name with
  | none => rfl
  | some value => exact hblind value

/-! ### Records that are written and read -/

/-- Under each of different names there stands the same after the arrangement as before. -/
structure Keeps (arrange : List (String × Json) → List (String × Json)) : Prop where
  get? : ∀ {members : List (String × Json)}, (members.map (·.1)).Nodup → ∀ name,
    NameMap.get? (arrange members) name = NameMap.get? members name
  nodup : ∀ {members : List (String × Json)}, (members.map (·.1)).Nodup →
    ((arrange members).map (·.1)).Nodup

theorem keeps_ofList : Keeps NameMap.ofList :=
  ⟨NameMap.get?_ofList, fun {members} _ => NameMap.nodup_names (NameMap.ascending_ofList members)⟩

/-- An object of which all members are fields, arranged, is a record with the same under each name,
arranged inside. -/
theorem exists_ofJson?_arranged {arrange : List (String × Json) → List (String × Json)}
    (harrange : Keeps arrange) {members : List (String × Json)} (hfields : fields.Nodup)
    (hnames : (members.map (·.1)).Sublist fields) :
    ∃ r, ofJson? fields (arranged arrange (.object members)) = some r ∧ r.surplus = false ∧
      (r.entries.map (·.1)).Nodup ∧
      ∀ name, r.get? name = (NameMap.get? members name).map (arranged arrange) := by
  have hinside : ((arrangedMembers arrange members).map (·.1)).Nodup := by
    rw [names_arrangedMembers]
    exact hnames.nodup hfields
  have hget : ∀ name, NameMap.get? (arrange (arrangedMembers arrange members)) name =
      (NameMap.get? members name).map (arranged arrange) := by
    intro name
    rw [harrange.get? hinside, get?_arrangedMembers]
  have hknown : ∀ member ∈ arrange (arrangedMembers arrange members), member.1 ∈ fields := by
    intro member hmember
    have hsome := NameMap.isSome_get?_iff.mpr (List.mem_map_of_mem (f := (·.1)) hmember)
    rw [hget, Option.isSome_map] at hsome
    exact hnames.subset (NameMap.isSome_get?_iff.mp hsome)
  have hentries : (arrange (arrangedMembers arrange members)).filter
      (fun member => fields.contains member.1) = arrange (arrangedMembers arrange members) :=
    List.filter_eq_self.mpr fun member hmember => List.elem_eq_true_of_mem (hknown member hmember)
  refine ⟨⟨arrange (arrangedMembers arrange members), false⟩, ?_, rfl, harrange.nodup hinside, hget⟩
  rw [arranged, ofJson?, hentries]

end Record

end JetStream.Json

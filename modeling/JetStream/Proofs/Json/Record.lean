import JetStream.Json.Record
import JetStream.Proofs.NameMap.Entries

/-!
# Records, field by field

A record with few fields is told best by what stands for each of them: the member under its name
where the record is an object, the item in its place where it is a row.  The readers of numbers and
texts have one kind of value each that they take.
-/

namespace JetStream.Json

/-! ## Values of one kind -/

theorem asString?_eq_some_iff {value : Json} {s : String} :
    value.asString? = some s ↔ value = .string s := by
  cases value <;> simp [asString?]

theorem asBool?_eq_some_iff {value : Json} {b : Bool} :
    value.asBool? = some b ↔ value = .bool b := by
  cases value <;> simp [asBool?]

theorem asInteger?_eq_some_iff {low high n : Int} {value : Json} :
    value.asInteger? low high = some n ↔ (low ≤ n ∧ n ≤ high) ∧ value = .integer n := by
  cases value with
  | integer whole =>
      rw [asInteger?, Option.ite_none_right_eq_some, Option.some.injEq, integer.injEq]
      constructor
      · rintro ⟨hrange, rfl⟩
        exact ⟨hrange, rfl⟩
      · rintro ⟨hrange, rfl⟩
        exact ⟨hrange, rfl⟩
  | _ => simp [asInteger?]

theorem asUnsigned?_eq_some_iff {bound n : Nat} {value : Json} :
    value.asUnsigned? bound = some n ↔ n ≤ bound ∧ value = .integer n := by
  simp only [asUnsigned?, Option.map_eq_some_iff, asInteger?_eq_some_iff]
  constructor
  · rintro ⟨whole, ⟨⟨hlow, hhigh⟩, rfl⟩, rfl⟩
    exact ⟨by omega, by rw [Int.toNat_of_nonneg hlow]⟩
  · rintro ⟨hbound, rfl⟩
    exact ⟨n, ⟨by omega, rfl⟩, Int.toNat_natCast n⟩

theorem asUnsigned64?_le {value : Json} {n : Nat} (h : value.asUnsigned64? = some n) :
    n ≤ Text.maxUnsigned64 :=
  (asUnsigned?_eq_some_iff.mp h).1

theorem optional?_of_read {α : Type} {value : Json} {read : Json → Option α} {a : α}
    (hnull : read .null = none) (h : read value = some a) :
    value.optional? read = some (some a) := by
  cases value with
  | null =>
      rw [hnull] at h
      cases h
  | _ => exact congrArg (Option.map some) h

theorem eq_some_of_optional? {α : Type} {value : Json} {read : Json → Option α} {a : α}
    (h : value.optional? read = some (some a)) : read value = some a := by
  cases value with
  | null => cases h
  | _ =>
      obtain ⟨b, hb, hsome⟩ := Option.map_eq_some_iff.mp h
      cases hsome
      exact hb

/-! ## What stands for a field -/

/-- The value of a field, which has a name in objects and a place in rows. -/
def field? (name : String) (place : Nat) : Json → Option Json
  | .object members => NameMap.get? members name
  | .array items => items[place]?
  | _ => none

/-- An object, or a row of no more values than there are fields. -/
def IsRecord (length : Nat) : Json → Prop
  | .object _ => True
  | .array items => items.length ≤ length
  | _ => False

namespace Record

variable {α : Type} {fields : List String} {name : String} {place : Nat}

private theorem get?_zip {items : List Json} (hnodup : fields.Nodup)
    (hplace : fields[place]? = some name) :
    NameMap.get? (fields.zip items) name = items[place]? := by
  induction fields generalizing items place with
  | nil => simp at hplace
  | cons first rest ih =>
      obtain ⟨hfirst, hrest⟩ := List.nodup_cons.mp hnodup
      cases items with
      | nil => rfl
      | cons item items =>
          rw [List.zip_cons_cons, NameMap.get?_cons]
          cases place with
          | zero =>
              obtain rfl : first = name := by simpa using hplace
              rw [if_pos rfl, List.getElem?_cons_zero]
          | succ place =>
              rw [List.getElem?_cons_succ] at hplace
              have hne : first ≠ name := by
                rintro rfl
                exact hfirst (List.mem_of_getElem? hplace)
              rw [if_neg hne, ih hrest hplace, List.getElem?_cons_succ]

/-- The record has for a field what stands for the field in the value. -/
theorem get?_of_ofJson? {value : Json} {r : Record} (hnodup : fields.Nodup)
    (hplace : fields[place]? = some name) (h : ofJson? fields value = some r) :
    r.get? name = value.field? name place := by
  cases value with
  | object members =>
      cases h
      have hname : fields.contains name = true :=
        List.elem_eq_true_of_mem (List.mem_of_getElem? hplace)
      exact NameMap.get?_filter hname members
  | array items =>
      cases h
      exact get?_zip hnodup hplace
  | _ => cases h

theorem isRecord_of_ofJson? {value : Json} {r : Record} (h : ofJson? fields value = some r)
    (hsurplus : r.surplus = false) : value.IsRecord fields.length := by
  cases value with
  | object members => trivial
  | array items =>
      cases h
      exact Nat.not_lt.mp (of_decide_eq_false hsurplus)
  | _ => cases h

theorem exists_of_isRecord (fields : List String) {value : Json}
    (h : value.IsRecord fields.length) :
    ∃ r, ofJson? fields value = some r ∧ r.surplus = false := by
  cases value with
  | object members => exact ⟨_, rfl, rfl⟩
  | array items => exact ⟨_, rfl, decide_eq_false (Nat.not_lt.mpr h)⟩
  | _ => exact h.elim

/-- A field with a default is read off what stands for it, or is the default where nothing does. -/
theorem read_eq_some_iff {r : Record} {default a : α} {read : Json → Option α} :
    r.read name default read = some a ↔
      (r.get? name).bind read = some a ∨ r.get? name = none ∧ a = default := by
  unfold Record.read
  cases r.get? name with
  | none => simp [eq_comm]
  | some value => simp

theorem read_cons (name other : String) (value : Json) (rest : List (String × Json))
    (surplus : Bool) (default : α) (read : Json → Option α) :
    (⟨(name, value) :: rest, surplus⟩ : Record).read other default read =
      if name = other then read value
      else (⟨rest, surplus⟩ : Record).read other default read := by
  have hget : (⟨(name, value) :: rest, surplus⟩ : Record).get? other =
      if name = other then some value else (⟨rest, surplus⟩ : Record).get? other :=
    NameMap.get?_cons (name, value) rest other
  rw [Record.read, hget]
  by_cases h : name = other
  · rw [if_pos h, if_pos h]
  · rw [if_neg h, if_neg h, Record.read]

theorem read_of_not_mem {rest : List (String × Json)} (h : name ∉ rest.map (·.1)) (surplus : Bool)
    (default : α) (read : Json → Option α) :
    (⟨rest, surplus⟩ : Record).read name default read = some default := by
  have hget : (⟨rest, surplus⟩ : Record).get? name = none := NameMap.get?_eq_none h
  rw [Record.read, hget]

/-- What holds of the default and of every value that can be read holds of the field. -/
theorem forall_read (P : α → Prop) {r : Record} {default value : α} {read : Json → Option α}
    (hdefault : P default) (hread : ∀ json value, read json = some value → P value)
    (h : r.read name default read = some value) : P value := by
  rcases read_eq_some_iff.mp h with hvalue | ⟨-, rfl⟩
  · obtain ⟨json, -, hvalue⟩ := Option.bind_eq_some_iff.mp hvalue
    exact hread json value hvalue
  · exact hdefault

end Record

end JetStream.Json

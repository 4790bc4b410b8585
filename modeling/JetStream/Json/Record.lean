import JetStream.Json.Written

/-!
# Records of JSON

A record with named fields is written as an object or as a row of values in the order of the fields,
of which the last ones may be missing.  Members of an object under other names are no fields and do
not count.

A record is read either off a value or directly off the written form.  Read directly, no field may
stand there twice, but what stands under other names is not looked into.
-/

namespace JetStream.Json

/-- The fields that were given, in the order in which they were given. -/
structure Record where
  /-- Values under names of fields. -/
  entries : List (String × Json)
  /-- A row with more values than there are fields. -/
  surplus : Bool

namespace Record

/-- A row of values under the names of fields. -/
def ofItems (fields : List String) (items : List Json) : Record :=
  ⟨fields.zip items, fields.length < items.length⟩

/-- The fields of a value. -/
def ofJson? (fields : List String) : Json → Option Record
  | .array items => some (ofItems fields items)
  | .object members => some ⟨members.filter fun member => fields.contains member.1, false⟩
  | _ => none

/-- The members that are fields, in order, with their values. -/
def knownMembers? (fields : List String) :
    List (List StringPart × Written) → Option (List (String × Json))
  | [] => some []
  | (name, member) :: rest => do
      let name ← string? name
      if fields.contains name then
        let value ← member.value? id (maxDepth - 1)
        let entries ← knownMembers? fields rest
        some ((name, value) :: entries)
      else knownMembers? fields rest

/-- The fields of a value as it is written. -/
def ofWritten? (fields : List String) : Written → Option Record
  | .array items => (Written.itemValues? id (maxDepth - 1) items).map (ofItems fields)
  | .object members => do
      let entries ← knownMembers? fields members
      if (entries.map (·.1)).Nodup then some ⟨entries, false⟩ else none
  | _ => none

/-- The value of a field. -/
def get? (r : Record) (name : String) : Option Json :=
  (r.entries.find? fun entry => entry.1 == name).map (·.2)

/-- What a field is read as; the default where it is missing. -/
def read {α : Type} (r : Record) (name : String) (default : α) (read : Json → Option α) :
    Option α :=
  match r.get? name with
  | some value => read value
  | none => some default

/-- What a field is read as that must be there. -/
def require {α : Type} (r : Record) (name : String) (read : Json → Option α) : Option α :=
  (r.get? name).bind read

end Record

end JetStream.Json

import JetStream.Json.Record
import JetStream.Proofs.Json.Tokens

/-!
# Values read back from their text

The second half of the way back: from the tokens of a written form to the form itself, and from
there to the value.

* `readInside_tokens` and `read_tokens`: reading the tokens of a written form gives that form and
  leaves what follows.  The reader keeps the arrays and objects that are open in a list, so the
  statement is about any list of them.
* `value?_written`: a readable value is the value of its written form, with the members of each
  object arranged as the reader arranges them.
* `read_scan_chars`: the text, in either layout, reads back as the written form of the value.
* `parse?_chars`: that text as a whole is the text of the value, arranged.
* `Record.ofWritten?_written`: an object of which all members are fields is read as the record of
  its members.
-/

namespace JetStream.Json

/-! ## From tokens to the written form -/

namespace Written

private theorem tokens_ne_endArray (value : Written) (rest more : List Token) :
    value.tokens ++ rest ≠ .endArray :: more := by
  cases value with
  | null | bool value | number text | string parts => simp [tokens]
  | array items => cases items <;> simp [tokens]
  | object members => cases members <;> simp [tokens]

mutual

/-- Reading the tokens of a value puts it into the innermost open array or object. -/
theorem readInside_tokens : ∀ (value : Written) (outer : List Pending) (rest : List Token),
    readInside outer (value.tokens ++ rest) = place value outer rest
  | .null, _, _ => rfl
  | .bool _, _, _ => rfl
  | .number _, _, _ => rfl
  | .string _, _, _ => rfl
  | .array [], _, _ => rfl
  | .array (item :: items), outer, rest => by
      simp only [tokens, List.cons_append, List.append_assoc, List.nil_append]
      rw [readInside, readInside_tokens item, place_itemTokens items]
      -- the reader looks for the end of an array first, which no value begins with
      · rfl
      · exact tokens_ne_endArray item _
  | .object [], _, _ => rfl
  | .object ((name, member) :: members), outer, rest => by
      simp only [tokens, List.cons_append, List.append_assoc, List.nil_append]
      rw [readInside, readInside_tokens member, place_memberTokens members]
      rfl

/-- The items after the first are put into the open array behind those that it holds. -/
theorem place_itemTokens : ∀ (items : List Written) (item : Written) (before : List Written)
    (outer : List Pending) (rest : List Token),
    place item (.array before :: outer) (itemTokens items ++ .endArray :: rest) =
      place (.array (before.reverse ++ item :: items)) outer rest
  | [], item, before, outer, rest => by simp [itemTokens, place]
  | next :: items, item, before, outer, rest => by
      simp only [itemTokens, List.cons_append, List.append_assoc]
      rw [place, readInside_tokens next, place_itemTokens items]
      simp

/-- The members after the first are put into the open object behind those that it holds. -/
theorem place_memberTokens : ∀ (members : List (List StringPart × Written)) (member : Written)
    (name : List StringPart) (before : List (List StringPart × Written)) (outer : List Pending)
    (rest : List Token),
    place member (.object before name :: outer) (memberTokens members ++ .endObject :: rest) =
      place (.object (before.reverse ++ (name, member) :: members)) outer rest
  | [], member, name, before, outer, rest => by simp [memberTokens, place]
  | (nextName, next) :: members, member, name, before, outer, rest => by
      simp only [memberTokens, List.cons_append, List.append_assoc]
      rw [place, readInside_tokens next, place_memberTokens members]
      simp

end

/-- The tokens of a value read back as that value, whatever follows. -/
theorem read_tokens (value : Written) (rest : List Token) :
    read (value.tokens ++ rest) = some (value, rest) := by
  rw [read, readInside_tokens, place]

end Written

/-! ## From the written form to the value -/

mutual

/-- The value with the members of each of its objects arranged. -/
def arranged (arrange : List (String × Json) → List (String × Json)) : Json → Json
  | .array items => .array (arrangedItems arrange items)
  | .object members => .object (arrange (arrangedMembers arrange members))
  | .null => .null
  | .bool value => .bool value
  | .integer n => .integer n
  | .decimal text => .decimal text
  | .string s => .string s

/-- The items of a row, arranged inside. -/
def arrangedItems (arrange : List (String × Json) → List (String × Json)) :
    List Json → List Json
  | [] => []
  | item :: items => arranged arrange item :: arrangedItems arrange items

/-- The members of an object, arranged inside. -/
def arrangedMembers (arrange : List (String × Json) → List (String × Json)) :
    List (String × Json) → List (String × Json)
  | [] => []
  | (name, member) :: members => (name, arranged arrange member) :: arrangedMembers arrange members

end

mutual

/-- Arranging that changes nothing. -/
@[simp] theorem arranged_id : ∀ value : Json, arranged id value = value
  | .null | .bool _ | .integer _ | .decimal _ | .string _ => rfl
  | .array items => by rw [arranged, arrangedItems_id items]
  | .object members => by rw [arranged, arrangedMembers_id members, id]

theorem arrangedItems_id : ∀ items : List Json, arrangedItems id items = items
  | [] => rfl
  | item :: items => by rw [arrangedItems, arranged_id item, arrangedItems_id items]

theorem arrangedMembers_id : ∀ members : List (String × Json), arrangedMembers id members = members
  | [] => rfl
  | (name, member) :: members => by
      rw [arrangedMembers, arranged_id member, arrangedMembers_id members]

end

variable (arrange : List (String × Json) → List (String × Json))

theorem arrangedMembers_append (first second : List (String × Json)) :
    arrangedMembers arrange (first ++ second) =
      arrangedMembers arrange first ++ arrangedMembers arrange second := by
  induction first with
  | nil => rfl
  | cons entry first ih =>
      rw [List.cons_append, arrangedMembers, arrangedMembers, ih, List.cons_append]

mutual

/-- A readable value is the value of its written form. -/
theorem value?_written : ∀ (value : Json) (levels : Nat), IsReadable levels value →
    (written value).value? arrange levels = some (arranged arrange value)
  | .null, _, _ => rfl
  | .bool _, _, _ => rfl
  | .integer _, _, hvalue => number?_integerChars hvalue
  | .decimal _, _, hvalue => hvalue.elim
  | .string s, _, _ => by simp [written, Written.value?, arranged]
  | .array items, levels, hvalue => by
      have hlevels : levels ≠ 0 := Nat.pos_iff_ne_zero.mp hvalue.1
      rw [written, Written.value?, if_neg hlevels, itemValues?_written items _ hvalue.2]
      rfl
  | .object members, levels, hvalue => by
      have hlevels : levels ≠ 0 := Nat.pos_iff_ne_zero.mp hvalue.1
      rw [written, Written.value?, if_neg hlevels, memberValues?_written members _ hvalue.2]
      rfl

theorem itemValues?_written : ∀ (items : List Json) (levels : Nat), AreReadable levels items →
    Written.itemValues? arrange levels (writtenItems items) = some (arrangedItems arrange items)
  | [], _, _ => rfl
  | item :: items, levels, hitems => by
      simp [writtenItems, Written.itemValues?, arrangedItems,
        value?_written item levels hitems.1, itemValues?_written items levels hitems.2]

theorem memberValues?_written : ∀ (members : List (String × Json)) (levels : Nat),
    MembersReadable levels members →
      Written.memberValues? arrange levels (writtenMembers members) =
        some (arrangedMembers arrange members)
  | [], _, _ => rfl
  | (name, member) :: members, levels, hmembers => by
      simp [writtenMembers, Written.memberValues?, arrangedMembers,
        value?_written member levels hmembers.1, memberValues?_written members levels hmembers.2]

end

/-! ## Whole texts -/

/-- The text of a value reads back as the written form of the value. -/
theorem read_scan_chars {layout : Layout} (hlayout : layout.IsBlank) {value : Json} {levels : Nat}
    (h : IsReadable levels value) :
    Written.read (Token.scan (chars layout 0 value)) = some (written value, []) := by
  have hscan := scan_chars hlayout 0 value h endsNumber_nil
  rw [List.append_nil, Token.scan] at hscan
  rw [hscan, Written.read_tokens]

/-- The text with a line for each member reads back as the written form of the value. -/
theorem read_scan_pretty {value : Json} {levels : Nat} (h : IsReadable levels value) :
    Written.read (Token.scan (pretty value).toList) = some (written value, []) := by
  rw [pretty, String.toList_ofList, read_scan_chars Layout.isBlank_pretty h]

/-- The text of a value, in either layout, is the text of the value, with the members of each object
in the order of their names. -/
theorem parse?_chars {layout : Layout} (hlayout : layout.IsBlank) {value : Json}
    (h : IsReadable maxDepth value) :
    parse? (String.ofList (chars layout 0 value)) = some (arranged NameMap.ofList value) := by
  rw [parse?, String.toList_ofList, read_scan_chars hlayout h]
  exact value?_written NameMap.ofList value maxDepth h

theorem parse?_compact {value : Json} (h : IsReadable maxDepth value) :
    parse? (compact value) = some (arranged NameMap.ofList value) :=
  parse?_chars Layout.isBlank_compact h

private theorem knownMembers?_written {fields : List String} {members : List (String × Json)}
    (hknown : ∀ entry ∈ members, entry.1 ∈ fields)
    (hread : MembersReadable (maxDepth - 1) members) :
    Record.knownMembers? fields (writtenMembers members) = some members := by
  induction members with
  | nil => rfl
  | cons entry members ih =>
      obtain ⟨name, member⟩ := entry
      have hname : name ∈ fields := hknown _ List.mem_cons_self
      have hvalue := value?_written id member _ hread.1
      have hmembers := ih (fun other hother => hknown other (List.mem_cons_of_mem _ hother)) hread.2
      simp [writtenMembers, Record.knownMembers?, hname, hvalue, hmembers]

/-- A row of members under different names of fields is read as the record of these members. -/
theorem Record.ofWritten?_written {fields : List String} {members : List (String × Json)}
    (hknown : ∀ entry ∈ members, entry.1 ∈ fields) (hnodup : (members.map (·.1)).Nodup)
    (hread : MembersReadable (maxDepth - 1) members) :
    ofWritten? fields (written (.object members)) = some ⟨members, false⟩ := by
  simp [written, ofWritten?, knownMembers?_written hknown hread, hnodup]

end JetStream.Json

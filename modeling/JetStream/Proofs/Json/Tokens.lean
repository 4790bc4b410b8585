import JetStream.Proofs.Json.Numbers
import JetStream.Proofs.Json.Strings

/-!
# From the text of a value to its tokens

A value that the printer writes has a written form, `Json.written`, and a written form has a row of
tokens, `Written.tokens`.  The main statement is `scan_chars`: in any layout whose breaks are white
space, scanning the text of a value gives the tokens of its written form and goes on behind it.

The text that follows must not go on with a number, or the last number would be read with it; inside
of arrays and objects a comma, a bracket or white space follows.
-/

namespace JetStream.Json

open Text

/-! ## Written forms and their tokens -/

mutual

/-- The value as it is written. -/
def written : Json → Written
  | .null => .null
  | .bool value => .bool value
  | .integer n => .number (integerChars n)
  | .decimal text => .number text.toList
  | .string s => .string (stringParts s)
  | .array items => .array (writtenItems items)
  | .object members => .object (writtenMembers members)

/-- The items of a row as they are written. -/
def writtenItems : List Json → List Written
  | [] => []
  | item :: items => written item :: writtenItems items

/-- The members of an object as they are written. -/
def writtenMembers : List (String × Json) → List (List StringPart × Written)
  | [] => []
  | (name, member) :: members => (stringParts name, written member) :: writtenMembers members

end

namespace Written

mutual

/-- The tokens of a value. -/
def tokens : Written → List Token
  | .null => [.null]
  | .bool value => [.bool value]
  | .number text => [.number text]
  | .string parts => [.string parts]
  | .array [] => [.beginArray, .endArray]
  | .array (item :: items) => .beginArray :: tokens item ++ itemTokens items ++ [.endArray]
  | .object [] => [.beginObject, .endObject]
  | .object ((name, member) :: members) =>
      .beginObject :: .string name :: .colon :: tokens member ++ memberTokens members ++
        [.endObject]

/-- The tokens of the items after the first. -/
def itemTokens : List Written → List Token
  | [] => []
  | item :: items => .comma :: tokens item ++ itemTokens items

/-- The tokens of the members after the first. -/
def memberTokens : List (List StringPart × Written) → List Token
  | [] => []
  | (name, member) :: members =>
      .comma :: .string name :: .colon :: tokens member ++ memberTokens members

end

end Written

/-! ## Which values read back -/

mutual

/-- The value reads back from its text: its numbers are whole and of 64 bits, and its arrays and
objects are nested within so many levels. -/
def IsReadable (levels : Nat) : Json → Prop
  | .integer n => IsWhole n
  | .decimal _ => False
  | .array items => 0 < levels ∧ AreReadable (levels - 1) items
  | .object members => 0 < levels ∧ MembersReadable (levels - 1) members
  | .null | .bool _ | .string _ => True

/-- All items of a row read back. -/
def AreReadable (levels : Nat) : List Json → Prop
  | [] => True
  | item :: items => IsReadable levels item ∧ AreReadable levels items

/-- All members of an object read back. -/
def MembersReadable (levels : Nat) : List (String × Json) → Prop
  | [] => True
  | (_, member) :: members => IsReadable levels member ∧ MembersReadable levels members

end

theorem MembersReadable.append {levels : Nat} {first second : List (String × Json)}
    (hfirst : MembersReadable levels first) (hsecond : MembersReadable levels second) :
    MembersReadable levels (first ++ second) := by
  induction first with
  | nil => exact hsecond
  | cons entry rest ih => exact ⟨hfirst.1, ih hfirst.2⟩

/-- The breaks of the layout are white space. -/
structure Layout.IsBlank (layout : Layout) : Prop where
  /-- Nothing but white space stands between items. -/
  lineBreak : ∀ depth, ∀ c ∈ layout.lineBreak depth, isSpace c = true
  /-- Nothing but white space stands after a colon. -/
  colon : ∃ blanks, layout.colon = ':' :: blanks ∧ ∀ c ∈ blanks, isSpace c = true

theorem Layout.isBlank_compact : Layout.compact.IsBlank where
  lineBreak := by simp [Layout.compact]
  colon := ⟨[], rfl, by simp⟩

theorem Layout.isBlank_pretty : Layout.pretty.IsBlank where
  lineBreak := by
    intro depth c hc
    simp only [Layout.pretty, List.mem_cons, List.mem_replicate] at hc
    rcases hc with rfl | ⟨-, rfl⟩ <;> decide
  colon := ⟨[' '], rfl, fun _ hc => List.mem_singleton.mp hc ▸ rfl⟩

/-! ## Scanning a single token -/

theorem scan_blanks_append {blanks : List Char} (h : ∀ c ∈ blanks, isSpace c = true)
    (rest : List Char) : Token.scan (blanks ++ rest) = Token.scan rest := by
  induction blanks with
  | nil => rfl
  | cons c blanks ih =>
      rw [List.cons_append, Token.scan, if_pos (h c List.mem_cons_self)]
      exact ih fun other hother => h other (List.mem_cons_of_mem c hother)

private theorem scan_of_read {c : Char} {cs rest : List Char} {token : Token}
    (hspace : isSpace c = false) (hread : Token.read c cs = some (token, rest))
    (hlength : rest.length ≤ cs.length) :
    Token.scan (c :: cs) = token :: Token.scan rest := by
  rw [Token.scan, if_neg (by simp [hspace]), hread]
  simp [hlength]

private theorem scan_mark {c : Char} {token : Token} {rest : List Char}
    (hspace : isSpace c = false) (hread : Token.read c rest = some (token, rest)) :
    Token.scan (c :: rest) = token :: Token.scan rest :=
  scan_of_read hspace hread (Nat.le_refl _)

@[simp] theorem scan_beginObject (rest : List Char) :
    Token.scan ('\x7b' :: rest) = .beginObject :: Token.scan rest :=
  scan_mark (by decide) rfl

@[simp] theorem scan_endObject (rest : List Char) :
    Token.scan ('\x7d' :: rest) = .endObject :: Token.scan rest :=
  scan_mark (by decide) rfl

@[simp] theorem scan_beginArray (rest : List Char) :
    Token.scan ('[' :: rest) = .beginArray :: Token.scan rest :=
  scan_mark (by decide) rfl

@[simp] theorem scan_endArray (rest : List Char) :
    Token.scan (']' :: rest) = .endArray :: Token.scan rest :=
  scan_mark (by decide) rfl

@[simp] theorem scan_comma (rest : List Char) :
    Token.scan (',' :: rest) = .comma :: Token.scan rest :=
  scan_mark (by decide) rfl

@[simp] theorem scan_colon (rest : List Char) :
    Token.scan (':' :: rest) = .colon :: Token.scan rest :=
  scan_mark (by decide) rfl

private theorem scan_null (rest : List Char) :
    Token.scan ('n' :: 'u' :: 'l' :: 'l' :: rest) = .null :: Token.scan rest :=
  scan_of_read (by decide) rfl (by simp only [List.length_cons]; omega)

private theorem scan_true (rest : List Char) :
    Token.scan ('t' :: 'r' :: 'u' :: 'e' :: rest) = .bool true :: Token.scan rest :=
  scan_of_read (by decide) rfl (by simp only [List.length_cons]; omega)

private theorem scan_false (rest : List Char) :
    Token.scan ('f' :: 'a' :: 'l' :: 's' :: 'e' :: rest) = .bool false :: Token.scan rest :=
  scan_of_read (by decide) rfl (by simp only [List.length_cons]; omega)

theorem scan_stringChars (s : String) (rest : List Char) :
    Token.scan (stringChars s ++ rest) = .string (stringParts s) :: Token.scan rest := by
  have hread : Token.read '"' (s.toList.flatMap escape ++ '"' :: rest) =
      some (.string (stringParts s), rest) := by
    rw [Token.read, readString_stringChars, Option.map_some]
  have hchars : stringChars s ++ rest = '"' :: (s.toList.flatMap escape ++ '"' :: rest) := by
    simp [stringChars]
  rw [hchars]
  refine scan_of_read (by decide) hread ?_
  simp only [List.length_append, List.length_cons]
  omega

private theorem isSpace_eq_false_of_isDigit {c : Char} (h : c.isDigit = true) :
    isSpace c = false := by
  have hne : ∀ blank : Char, blank.isDigit = false → c ≠ blank := by
    rintro blank hblank rfl
    rw [h] at hblank
    exact Bool.noConfusion hblank
  simp [isSpace, hne ' ' (by decide), hne '\n' (by decide), hne '\t' (by decide),
    hne '\r' (by decide)]

theorem scan_integerChars (n : Int) {rest : List Char} (hrest : EndsNumber rest) :
    Token.scan (integerChars n ++ rest) = .number (integerChars n) :: Token.scan rest := by
  obtain ⟨c, cs, hchars, hc⟩ := exists_integerChars n
  have hread : Token.read c (cs ++ rest) = some (.number (integerChars n), rest) := by
    have hnumber := readNumber_integerChars n hrest
    rw [hchars, List.cons_append] at hnumber
    rw [Token.read.eq_def]
    split <;> simp_all [Char.isDigit]
  have hspace : isSpace c = false := by
    rcases hc with rfl | hdigit
    · decide
    · exact isSpace_eq_false_of_isDigit hdigit
  calc Token.scan (integerChars n ++ rest)
      = Token.scan (c :: (cs ++ rest)) := by rw [hchars, List.cons_append]
    _ = .number (integerChars n) :: Token.scan rest := scan_of_read hspace hread (by simp)

/-! ## What stands behind a value -/

theorem endsNumber_blanks_append {blanks rest : List Char}
    (h : ∀ c ∈ blanks, isSpace c = true) (hrest : EndsNumber rest) :
    EndsNumber (blanks ++ rest) := by
  cases blanks with
  | nil => exact hrest
  | cons c blanks =>
      have hspace := h c List.mem_cons_self
      simp only [isSpace, Bool.or_eq_true, decide_eq_true_eq] at hspace
      rw [List.cons_append, endsNumber_cons]
      rcases hspace with ((rfl | rfl) | rfl) | rfl <;> decide

variable {layout : Layout}

private theorem endsNumber_end (hlayout : layout.IsBlank) (depth : Nat) {c : Char}
    (hc : c = ']' ∨ c = '\x7d') (rest : List Char) :
    EndsNumber (layout.lineBreak depth ++ c :: rest) := by
  refine endsNumber_blanks_append (hlayout.lineBreak depth) (endsNumber_cons.mpr ?_)
  rcases hc with rfl | rfl <;> decide

private theorem endsNumber_itemChars (depth : Nat) (items : List Json) {rest : List Char}
    (hrest : EndsNumber rest) : EndsNumber (itemChars layout depth items ++ rest) := by
  cases items with
  | nil => exact hrest
  | cons item items => exact endsNumber_cons.mpr (by decide)

private theorem endsNumber_memberChars (depth : Nat) (members : List (String × Json))
    {rest : List Char} (hrest : EndsNumber rest) :
    EndsNumber (memberChars layout depth members ++ rest) := by
  cases members with
  | nil => exact hrest
  | cons member members => exact endsNumber_cons.mpr (by decide)

/-! ## Scanning a value -/

private theorem scan_layoutColon (hlayout : layout.IsBlank) (rest : List Char) :
    Token.scan (layout.colon ++ rest) = .colon :: Token.scan rest := by
  obtain ⟨blanks, hcolon, hblanks⟩ := hlayout.colon
  rw [hcolon, List.cons_append, scan_colon, scan_blanks_append hblanks]

mutual

/-- Scanning the text of a value gives the tokens of its written form. -/
theorem scan_chars (hlayout : layout.IsBlank) {levels : Nat} (depth : Nat) :
    ∀ value : Json, IsReadable levels value → ∀ {rest : List Char}, EndsNumber rest →
      Token.scan (chars layout depth value ++ rest) = (written value).tokens ++ Token.scan rest
  | .null, _, rest, _ => scan_null rest
  | .bool true, _, rest, _ => scan_true rest
  | .bool false, _, rest, _ => scan_false rest
  | .integer n, _, _, hrest => scan_integerChars n hrest
  | .decimal _, hvalue, _, _ => by simp [IsReadable] at hvalue
  | .string s, _, rest, _ => scan_stringChars s rest
  | .array [], _, rest, _ => by simp [chars, written, writtenItems, Written.tokens]
  | .array (item :: items), hvalue, rest, _ => by
      obtain ⟨-, hitem, hitems⟩ := hvalue
      -- the last item may be a number, and what follows it must not be taken for a part of it
      have hend : EndsNumber (layout.lineBreak depth ++ ']' :: rest) :=
        endsNumber_end hlayout depth (Or.inl rfl) rest
      simp only [chars, written, writtenItems, Written.tokens, List.cons_append, List.append_assoc,
        List.nil_append, scan_beginArray, scan_blanks_append (hlayout.lineBreak (depth + 1))]
      rw [scan_chars hlayout (depth + 1) item hitem (endsNumber_itemChars _ items hend),
        scan_itemChars hlayout (depth + 1) items hitems hend,
        scan_blanks_append (hlayout.lineBreak depth), scan_endArray]
  | .object [], _, rest, _ => by simp [chars, written, writtenMembers, Written.tokens]
  | .object ((name, member) :: members), hvalue, rest, _ => by
      obtain ⟨-, hmember, hmembers⟩ := hvalue
      have hend : EndsNumber (layout.lineBreak depth ++ '\x7d' :: rest) :=
        endsNumber_end hlayout depth (Or.inr rfl) rest
      simp only [chars, written, writtenMembers, Written.tokens, List.cons_append,
        List.append_assoc, List.nil_append, scan_beginObject,
        scan_blanks_append (hlayout.lineBreak (depth + 1)), scan_stringChars,
        scan_layoutColon hlayout]
      rw [scan_chars hlayout (depth + 1) member hmember (endsNumber_memberChars _ members hend),
        scan_memberChars hlayout (depth + 1) members hmembers hend,
        scan_blanks_append (hlayout.lineBreak depth), scan_endObject]

theorem scan_itemChars (hlayout : layout.IsBlank) {levels : Nat} (depth : Nat) :
    ∀ items : List Json, AreReadable levels items → ∀ {rest : List Char}, EndsNumber rest →
      Token.scan (itemChars layout depth items ++ rest) =
        Written.itemTokens (writtenItems items) ++ Token.scan rest
  | [], _, _, _ => rfl
  | item :: items, hitems, _, hrest => by
      simp only [itemChars, writtenItems, Written.itemTokens, List.cons_append, List.append_assoc,
        scan_comma, scan_blanks_append (hlayout.lineBreak depth)]
      rw [scan_chars hlayout depth item hitems.1 (endsNumber_itemChars _ items hrest),
        scan_itemChars hlayout depth items hitems.2 hrest]

theorem scan_memberChars (hlayout : layout.IsBlank) {levels : Nat} (depth : Nat) :
    ∀ members : List (String × Json), MembersReadable levels members →
      ∀ {rest : List Char}, EndsNumber rest →
        Token.scan (memberChars layout depth members ++ rest) =
          Written.memberTokens (writtenMembers members) ++ Token.scan rest
  | [], _, _, _ => rfl
  | (name, member) :: members, hmembers, _, hrest => by
      simp only [memberChars, writtenMembers, Written.memberTokens, List.cons_append,
        List.append_assoc, scan_comma, scan_blanks_append (hlayout.lineBreak depth),
        scan_stringChars, scan_layoutColon hlayout]
      rw [scan_chars hlayout depth member hmembers.1 (endsNumber_memberChars _ members hrest),
        scan_memberChars hlayout depth members hmembers.2 hrest]

end

end JetStream.Json

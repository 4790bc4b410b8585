import JetStream.Proofs.Text.Case
import JetStream.Proofs.Yaml.Scalars
import JetStream.Yaml.Reader

/-!
# Entries of mappings read back

An entry on lines of its own is read as its name and its scalar, and the reader comes to the line
behind it.  So a mapping is read entry by entry, whatever comes behind its last one.
-/

namespace JetStream.Yaml

open TokenStream

/-- An entry as it is written. -/
structure Entry where
  name : List Char
  written : List Char
  /-- What it is read as. -/
  value : Scalar

namespace Entry

/-- The entry is read in a block that begins in a column. -/
structure IsRead (base : Nat) (e : Entry) : Prop where
  isName : IsName e.name
  length_le : e.name.length ≤ 1024
  standsFor : StandsFor base e.written e.value
  isWritten : IsWritten e.written

/-- The name and the value in the tree. -/
def node (e : Entry) : Node × Node := (.scalar ⟨String.ofList e.name, .plain⟩, .scalar e.value)

end Entry

/-- The text of a line from its column on. -/
structure Line where
  column : Nat
  text : List Char

/-- The line with its indentation. -/
def Line.chars (line : Line) : List Char := indentation line.column ++ line.text

/-- The line that entries begin with, in front of another. -/
def firstLine (base : Nat) (behind : Line) : List Entry → Line
  | [] => behind
  | e :: es =>
      ⟨base, e.name ++ ':' :: ' ' :: (e.written ++ (closingBreak e.written ++
        (firstLine base behind es).chars))⟩

variable {base column taken n fuel : Nat} {outer indents : List Nat} {p : Position}
  {allowsName : Bool} {handles : List (String × String)}
  {queue : List Token}

/-! ## Scalars as nodes -/

/-- White space in front of a scalar is skipped, and the scalar is the next token. -/
theorem peek?_value {written next : List Char} {value : Scalar}
    (hvalue : StandsFor base written value) (hcolumn : base ≤ column) (hn : n ≤ base)
    (hnext : BeginsWord next)
    (hp : p.IsAt column (' ' :: (written ++ (closingBreak written ++ (indentation n ++ next))))) :
    ∃ after allowsNext, after.LeadsTo n next allowsNext ∧
      (inBlock p [] taken (base :: outer) false).peek? =
        some (.scalar value, inBlock after [.scalar value] taken (base :: outer) allowsNext) := by
  have hbegins := hvalue.begins (closingBreak written ++ (indentation n ++ next))
  have hskip := @skipSpaceFrom_indentation _ 1 _ (inBlock p [] taken (base :: outer) false)
    p.rest.length hp hbegins
  have hstart : (p.skip 1).IsAt (column + 1) _ := hp.next rfl
  obtain ⟨after, allowsNext, hscan, hafter⟩ :=
    hvalue.scan (p.skip 1) (column + 1) taken n outer next (Nat.lt_succ_of_le hcolumn) hn hnext
      hstart
  refine ⟨after, allowsNext, hafter, peek?_of_fetch? ?_⟩
  have hinside : ∀ indent ∈ (base :: outer).head?, indent ≤ (p.skip 1).column := by
    intro indent hindent
    obtain rfl := Option.some.inj hindent
    rw [hstart.column_eq]
    exact hcolumn.trans (Nat.le_succ column)
  rw [fetch?, approach?_inBlock hskip, Option.bind_some, closeBlocks_of_le hinside, hscan]

/-- A reading in a block. -/
abbrev Reading.inBlock (p : Position) (queue : List Token) (taken : Nat) (indents : List Nat)
    (allowsName : Bool) (handles : List (String × String)) : Reading :=
  ⟨TokenStream.inBlock p queue taken indents allowsName, handles, []⟩

theorem Reading.peek?_of_queue (token : Token) :
    (Reading.inBlock p (token :: queue) taken indents allowsName handles).peek? =
      some (token, Reading.inBlock p (token :: queue) taken indents allowsName handles) := by
  rw [Reading.peek?, TokenStream.peek?_of_queue]
  rfl

theorem Reading.advance_inBlock (token : Token) :
    (Reading.inBlock p (token :: queue) taken indents allowsName handles).advance =
      Reading.inBlock p queue (taken + 1) indents allowsName handles := rfl

theorem node?_scalar {place : Place} {value : Scalar} :
    node? (fuel + 1) place
        (Reading.inBlock p (.scalar value :: queue) taken indents allowsName handles) =
      some ⟨.scalar value,
        some (Reading.inBlock p queue (taken + 1) indents allowsName handles)⟩ := by
  simp [node?, properties?, Reading.peek?_of_queue, Reading.beginNode, Reading.endNode,
    Reading.advance, TokenStream.advance]

theorem optionalNode?_of_peek? {place : Place} {isMissing : Token → Bool} {token : Token}
    {r r' : Reading} (hpeek : r.peek? = some (token, r')) (hmissing : isMissing token = false) :
    optionalNode? (fuel + 1) place isMissing r = node? fuel place r' := by
  rw [optionalNode?, hpeek]
  simp [hmissing]

/-! ## Entries -/

/-- The next name is one as soon as its colon is seen. -/
theorem Reading.peek?_nextName {name rest : List Char} (hname : IsName name)
    (hp : p.LeadsTo column (name ++ ':' :: rest) allowsName) (hrest : endsWord rest = true)
    (hlength : name.length ≤ 1024) :
    ∃ q, q.IsAt (column + name.length + 1) rest ∧
      (Reading.inBlock p [] taken (column :: outer) allowsName handles).peek? =
        (Reading.inBlock q (nameTokens name) taken (column :: outer) false handles).peek? := by
  obtain ⟨q, hq, hpeek⟩ :=
    @TokenStream.peek?_nextName p column taken allowsName rest name outer hname hp hrest hlength
  refine ⟨q, hq, ?_⟩
  rw [nameTokens, Reading.peek?_of_queue, Reading.peek?, hpeek]
  rfl

theorem blockEntries_congr {r r' : Reading} (h : r.peek? = r'.peek?) :
    blockEntries (fuel + 1) r = blockEntries (fuel + 1) r' := by
  rw [blockEntries, blockEntries, h]

/-- Behind a name and its colon stand the value of the entry and more entries. -/
theorem blockEntries_nameTokens {name : List Char} :
    blockEntries (fuel + 3)
        (Reading.inBlock p (nameTokens name) taken (base :: outer) false handles) =
      .cons ((optionalNode? (fuel + 1) .entry Token.endsEntry
          (Reading.inBlock p [] (taken + 3) (base :: outer) false handles)).map
            (·.map fun value => (.scalar ⟨String.ofList name, .plain⟩, value)))
        (blockEntries (fuel + 2)) := by
  have hname : optionalNode? (fuel + 2) .entry Token.endsEntry
      (Reading.inBlock p [.scalar ⟨String.ofList name, .plain⟩, .value] (taken + 1) (base :: outer)
        false handles) =
      some ⟨.scalar ⟨String.ofList name, .plain⟩,
        some (Reading.inBlock p [.value] (taken + 2) (base :: outer) false handles)⟩ := by
    rw [optionalNode?_of_peek? (Reading.peek?_of_queue _) rfl, node?_scalar]
  have hvalue : entryValue? (fuel + 2) .entry Token.endsEntry
      (Reading.inBlock p [.value] (taken + 2) (base :: outer) false handles) =
      optionalNode? (fuel + 1) .entry Token.endsEntry
        (Reading.inBlock p [] (taken + 3) (base :: outer) false handles) := by
    rw [entryValue?, Reading.peek?_of_queue, Option.bind_eq_bind, Option.bind_some]
    rfl
  rw [nameTokens, blockEntries, Reading.peek?_of_queue]
  dsimp only
  rw [Reading.advance_inBlock, hname, Parsed.pair]
  simp only [Option.bind_eq_bind, Option.bind_some, hvalue, Option.map_eq_bind, Function.comp_def,
    Parsed.map]

theorem Parsed.map_map {α β γ : Type} (f : α → β) (g : β → γ) (parsed : Parsed α) :
    (parsed.map f).map g = parsed.map (g ∘ f) := rfl

/-- A name and the scalar on its line are one entry. -/
theorem blockEntries_entry {e : Entry} {next : List Char} (he : e.IsRead base)
    (hcolumn : base ≤ column) (hn : n ≤ base) (hnext : BeginsWord next)
    (hp : p.IsAt column (' ' :: (e.written ++ (closingBreak e.written ++
      (indentation n ++ next))))) :
    ∃ after allowsNext, after.LeadsTo n next allowsNext ∧
      blockEntries (fuel + 4)
          (Reading.inBlock p (nameTokens e.name) taken (base :: outer) false handles) =
        (blockEntries (fuel + 3)
          (Reading.inBlock after [] (taken + 4) (base :: outer) allowsNext handles)).map
            (e.node :: ·) := by
  obtain ⟨after, allowsNext, hafter, hpeek⟩ :=
    @peek?_value base column (taken + 3) n outer p _ _ _ he.standsFor hcolumn hn hnext hp
  refine ⟨after, allowsNext, hafter, ?_⟩
  have hread : (Reading.inBlock p [] (taken + 3) (base :: outer) false handles).peek? =
      some (.scalar e.value, Reading.inBlock after [.scalar e.value] (taken + 3) (base :: outer)
        allowsNext handles) := by
    rw [Reading.peek?, hpeek]
    rfl
  rw [blockEntries_nameTokens, optionalNode?_of_peek? hread rfl, node?_scalar]
  rfl

/-- From the colon of the first entry on, entry by entry, up to the line behind them. -/
theorem blockEntries_entries {behind : Line} (hbehindColumn : behind.column ≤ base)
    (hbehind : BeginsToken behind.text) {e : Entry} {es : List Entry}
    (hes : ∀ e' ∈ e :: es, e'.IsRead base) (hcolumn : base ≤ column)
    (hp : p.IsAt column (' ' :: (e.written ++ (closingBreak e.written ++
      (firstLine base behind es).chars)))) :
    ∃ after allowsNext taken', after.LeadsTo behind.column behind.text allowsNext ∧
      blockEntries (fuel + 4 + es.length)
          (Reading.inBlock p (nameTokens e.name) taken (base :: outer) false handles) =
        (blockEntries (fuel + 3)
          (Reading.inBlock after [] taken' (base :: outer) allowsNext handles)).map
            ((e :: es).map Entry.node ++ ·) := by
  -- On the entries behind the first.  The name of each is seen while the one before it is read, so
  -- the reading is always behind a colon.
  induction es generalizing e p column taken with
  | nil =>
      obtain ⟨after, allowsNext, hafter, hentry⟩ :=
        @blockEntries_entry base column taken _ fuel outer p handles e _
          (hes e List.mem_cons_self) hcolumn hbehindColumn hbehind.beginsWord hp
      exact ⟨after, allowsNext, taken + 4, hafter, hentry⟩
  | cons e' es ih =>
      obtain ⟨he, hes⟩ := List.forall_mem_cons.mp hes
      have he' := hes e' List.mem_cons_self
      obtain ⟨mid, allowsMid, hmid, hentry⟩ :=
        @blockEntries_entry base column taken base (fuel + 1 + es.length) outer p handles e _ he
          hcolumn (Nat.le_refl base) (he'.isName.beginsWord _) hp
      obtain ⟨q, hq, hsame⟩ := @Reading.peek?_nextName base (taken + 4) outer mid allowsMid handles
        e'.name _ he'.isName hmid rfl he'.length_le
      obtain ⟨after, allowsNext, taken', hafter, hmore⟩ :=
        ih hes (Nat.le_add_right_of_le (Nat.le_add_right base _)) hq
      refine ⟨after, allowsNext, taken', hafter, ?_⟩
      have hfuel : fuel + 4 + (e' :: es).length = fuel + 1 + es.length + 4 := by
        rw [List.length_cons]
        omega
      have hless : fuel + 1 + es.length + 3 = fuel + 4 + es.length := by omega
      rw [hfuel, hentry, blockEntries_congr hsame, hless, hmore, Parsed.map_map]
      rfl

/-- Entries at the end of the text end their block, and all others with it. -/
theorem blockEntries_lastEntries {e : Entry} {es : List Entry}
    (hes : ∀ e' ∈ e :: es, e'.IsRead base) (hcolumn : base ≤ column)
    (hp : p.IsAt column (' ' :: (e.written ++ (closingBreak e.written ++
      (firstLine base ⟨0, []⟩ es).chars)))) :
    ∃ after taken', blockEntries (fuel + 4 + es.length)
        (Reading.inBlock p (nameTokens e.name) taken (base :: outer) false handles) =
      ⟨(e :: es).map Entry.node,
        some (Reading.inBlock after (List.replicate outer.length .blockEnd ++ [.streamEnd]) taken'
          [] false handles)⟩ := by
  have hbehind : BeginsToken [] := fun c hc => by cases hc
  obtain ⟨mid, allowsNext, taken', hmid, hread⟩ :=
    @blockEntries_entries base column taken fuel outer p handles ⟨0, []⟩ (Nat.zero_le base) hbehind
      e es hes hcolumn hp
  obtain ⟨after, hpeek⟩ := @peek?_end mid taken' outer allowsNext base hmid
  have hend : (Reading.inBlock mid [] taken' (base :: outer) allowsNext handles).peek? =
      some (.blockEnd, Reading.inBlock after
        (.blockEnd :: (List.replicate outer.length .blockEnd ++ [.streamEnd])) taken' [] false
        handles) := by
    rw [Reading.peek?, hpeek]
    rfl
  refine ⟨after, taken' + 1, ?_⟩
  rw [hread, blockEntries, hend]
  simp only [Reading.advance_inBlock, Parsed.map, List.append_nil]

/-! ## Mappings -/

theorem node?_mapping {place : Place} (hplace : place ≠ .flow) {r : Reading}
    (hpeek : r.peek? = some (.blockMapping,
      Reading.inBlock p (.blockMapping :: queue) taken indents false handles)) :
    node? (fuel + 1) place r =
      some ((blockEntries fuel
        (Reading.inBlock p queue (taken + 1) indents false handles)).map Node.mapping) := by
  rw [node?, properties?, hpeek]
  simp [hplace, Reading.beginNode, Reading.endNode, Parsed.map, Reading.advance,
    TokenStream.advance]

/-- A name on a line of its own, and entries below it that are indented by so many columns. -/
def sectionLine (name : List Char) (inner : Nat) (entries : List Entry) : Line :=
  ⟨0, name ++ ':' :: nextLine inner (firstLine inner ⟨0, []⟩ entries).text⟩

variable {name : List Char} {inner : Nat} {d e : Entry} {ds es : List Entry}

/-- The section is the last entry. -/
theorem blockEntries_section (hname : IsName name) (hlength : name.length ≤ 1024)
    (hinner : 0 < inner) (hds : ∀ d' ∈ d :: ds, d'.IsRead inner)
    (hp : p.LeadsTo 0 (sectionLine name inner (d :: ds)).text allowsName) :
    ∃ after taken', blockEntries (fuel + ds.length + 8)
        (Reading.inBlock p [] taken [0] allowsName handles) =
      ⟨[(.scalar ⟨String.ofList name, .plain⟩, .mapping ((d :: ds).map Entry.node))],
        some (Reading.inBlock after [.streamEnd] taken' [] false handles)⟩ := by
  obtain ⟨q, hq, hsame⟩ :=
    @Reading.peek?_nextName 0 taken [] p allowsName handles name _ hname hp rfl hlength
  have hd := hds d List.mem_cons_self
  obtain ⟨q', hq', hpeek'⟩ := @peek?_firstName q inner (taken + 3) [0] false _ d.name hd.isName
    (.line hq) rfl (fun indent hindent => by obtain rfl := Option.some.inj hindent; exact hinner)
    hd.length_le
  have hmapping : (Reading.inBlock q [] (taken + 3) [0] false handles).peek? =
      some (.blockMapping, Reading.inBlock q' (.blockMapping :: nameTokens d.name) (taken + 3)
        [inner, 0] false handles) := by
    rw [Reading.peek?, hpeek']
    rfl
  obtain ⟨after, taken', hentries⟩ :=
    @blockEntries_lastEntries inner _ (taken + 4) fuel [0] q' handles d ds hds
      (Nat.le_add_right_of_le (Nat.le_add_right inner _)) hq'
  refine ⟨after, taken' + 1, ?_⟩
  have hfuel : fuel + ds.length + 8 = (fuel + 4 + ds.length + 1) + 3 := by omega
  rw [hfuel, blockEntries_congr hsame, blockEntries_nameTokens, optionalNode?_of_peek? hmapping rfl,
    node?_mapping (by decide) (Reading.peek?_of_queue _), hentries]
  simp only [Parsed.map, Option.map_some, Parsed.cons]
  rw [blockEntries, List.length_singleton, List.replicate_one, List.singleton_append,
    Reading.peek?_of_queue]
  rfl

/-! ## Documents -/

/-- The entries of a document with a section behind them. -/
def sectionedNode (entries : List Entry) (name : List Char) (nested : List Entry) : Node :=
  .mapping (entries.map Entry.node ++
    [(.scalar ⟨String.ofList name, .plain⟩, .mapping (nested.map Entry.node))])

theorem document_of_entries (hes : ∀ e' ∈ e :: es, e'.IsRead 0) (hname : IsName name)
    (hlength : name.length ≤ 1024) (hinner : 0 < inner) (hds : ∀ d' ∈ d :: ds, d'.IsRead inner)
    {cs : List Char} (hcs : (firstLine 0 (sectionLine name inner (d :: ds)) (e :: es)).text = cs)
    (hfuel : es.length + ds.length + 11 ≤ fuel) :
    Reading.document fuel ⟨.ofText cs, [], []⟩ =
      ⟨some (sectionedNode (e :: es) name (d :: ds)), true⟩ := by
  obtain ⟨fuel, rfl⟩ := Nat.exists_eq_add_of_le' hfuel
  have he := hes e List.mem_cons_self
  have hstart : (Position.start cs).LeadsTo 0 _ true := .here ⟨hcs.symm, rfl⟩
  obtain ⟨q, hq, hpeek⟩ := @peek?_firstName _ 0 0 [] true _ e.name he.isName hstart rfl
    (fun _ hindent => by cases hindent) he.length_le
  have hfirst : Reading.peek? ⟨.ofText cs, [], []⟩ = some (.blockMapping,
      Reading.inBlock q (.blockMapping :: nameTokens e.name) 0 [0] false []) := by
    rw [Reading.peek?, TokenStream.ofText, hpeek]
    rfl
  obtain ⟨mid, allowsMid, taken, hmid, hentries⟩ :=
    @blockEntries_entries 0 _ 1 (fuel + ds.length + 6) [] q commonHandles
      (sectionLine name inner (d :: ds)) (Nat.le_refl 0) (hname.beginsToken _) e es hes
      (Nat.zero_le _) hq
  obtain ⟨after, taken', hsection⟩ :=
    @blockEntries_section taken (fuel + 1) mid allowsMid commonHandles name inner d ds hname hlength
      hinner hds hmid
  have hfuel : fuel + (es.length + ds.length + 11) = fuel + ds.length + 6 + 4 + es.length + 1 := by
    omega
  have hless : fuel + ds.length + 6 + 3 = fuel + 1 + ds.length + 8 := by omega
  have hroot : node? (fuel + (es.length + ds.length + 11)) .block
      (Reading.inBlock q (.blockMapping :: nameTokens e.name) 0 [0] false commonHandles) =
      some ⟨sectionedNode (e :: es) name (d :: ds),
        some (Reading.inBlock after [.streamEnd] taken' [] false commonHandles)⟩ := by
    rw [hfuel, node?_mapping (by decide) (Reading.peek?_of_queue _), hentries, hless, hsection]
    rfl
  have hfinished : isFinished (fuel + (es.length + ds.length + 11))
      (Reading.inBlock after [.streamEnd] taken' [] false commonHandles) = true := by
    rw [hfuel, isFinished, Reading.peek?_of_queue]
  rw [Reading.document, hfirst]
  dsimp only
  rw [hroot, Document.ofParsed, Option.any_some, hfinished]

theorem isAllowed_of_isWritable {c : Char} (h : isWritable c = true) : isAllowed c = true := by
  simp only [isWritable, isAllowed, Bool.or_eq_true, Bool.and_eq_true, decide_eq_true_eq] at h ⊢
  omega

theorem unifyBreaks_of_isWritten {cs : List Char} (h : IsWritten cs) : unifyBreaks cs = cs := by
  induction cs with
  | nil => rfl
  | cons c cs ih =>
      obtain ⟨hc, hcs⟩ := List.forall_mem_cons.mp h
      have hkept : ¬(c = '\r' ∨ c = '\u0085') := by
        rintro (rfl | rfl) <;> exact absurd hc (by decide)
      rw [unifyBreaks, ih hcs, if_neg hkept]
      rintro rest rfl
      exact absurd (.inl rfl) hkept

theorem isWritten_name (hname : IsName name) : IsWritten name := fun c hc => by
  rcases hname.letters c hc with hlower | rfl
  · have hbounds := Text.bounds_of_isLower hlower
    simp only [isWritable, Bool.or_eq_true, Bool.and_eq_true, decide_eq_true_eq]
    omega
  · rfl

theorem isWritten_firstLine {behind : Line} (hbehind : IsWritten behind.text)
    {entries : List Entry} (hentries : ∀ e ∈ entries, e.IsRead base) :
    IsWritten (firstLine base behind entries).text := by
  induction entries with
  | nil => exact hbehind
  | cons e entries ih =>
      obtain ⟨he, hentries⟩ := List.forall_mem_cons.mp hentries
      have hclosing : IsWritten (closingBreak e.written) := by
        unfold closingBreak
        split
        · exact List.forall_mem_nil _
        · exact List.forall_mem_singleton.mpr rfl
      exact List.forall_mem_append.mpr ⟨isWritten_name he.isName, List.forall_mem_cons.mpr ⟨rfl,
        List.forall_mem_cons.mpr ⟨rfl, List.forall_mem_append.mpr ⟨he.isWritten,
          List.forall_mem_append.mpr ⟨hclosing, List.forall_mem_append.mpr
            ⟨isWritten_indentation _, ih hentries⟩⟩⟩⟩⟩⟩

theorem length_le_firstLine (behind : Line) (entries : List Entry) :
    entries.length + behind.text.length ≤ (firstLine base behind entries).text.length := by
  induction entries with
  | nil => exact (Nat.zero_add _).le
  | cons e entries ih =>
      rw [firstLine]
      simp only [Line.chars, List.length_append, List.length_cons]
      omega

/-- A document of entries with a section is read as a whole. -/
theorem Document.read_of_entries (hes : ∀ e' ∈ e :: es, e'.IsRead 0) (hname : IsName name)
    (hlength : name.length ≤ 1024) (hinner : 0 < inner) (hds : ∀ d' ∈ d :: ds, d'.IsRead inner)
    {text : String}
    (htext : (firstLine 0 (sectionLine name inner (d :: ds)) (e :: es)).text = text.toList) :
    Document.read text = ⟨some (sectionedNode (e :: es) name (d :: ds)), true⟩ := by
  have hsection : IsWritten (sectionLine name inner (d :: ds)).text :=
    List.forall_mem_append.mpr ⟨isWritten_name hname, List.forall_mem_cons.mpr ⟨rfl,
      List.forall_mem_cons.mpr ⟨rfl, List.forall_mem_append.mpr ⟨isWritten_indentation _,
        @isWritten_firstLine inner ⟨0, []⟩ (List.forall_mem_nil _) _ hds⟩⟩⟩⟩
  have hwritten : IsWritten text.toList := htext ▸ isWritten_firstLine hsection hes
  have hallowed : text.toList.all isAllowed = true :=
    List.all_eq_true.mpr fun c hc => isAllowed_of_isWritable (hwritten c hc)
  have houterLength := @length_le_firstLine 0 (sectionLine name inner (d :: ds)) (e :: es)
  have hinnerLength := @length_le_firstLine inner ⟨0, []⟩ (d :: ds)
  rw [Document.read, unifyBreaks_of_isWritten hwritten, if_pos hallowed]
  refine document_of_entries hes hname hlength hinner hds htext ?_
  rw [htext] at houterLength
  simp only [sectionLine, nextLine, List.length_append, List.length_cons]
    at houterLength hinnerLength
  omega

end JetStream.Yaml

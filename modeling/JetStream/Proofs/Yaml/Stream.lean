import JetStream.Proofs.Yaml.Plain
import JetStream.Yaml.Token

/-!
# Names in the row of tokens

In front of a name stands white space at most, and a line break among it lets the name begin.  The
name is fetched first; the colon behind it shows what it is, and the token for that is put in front.
If the name stands further in than the names around it a mapping begins with it.
-/

namespace JetStream.Yaml

/-- The text begins with a token, unless it has ended: no white space and no comment is in front. -/
def BeginsToken (cs : List Char) : Prop :=
  ∀ c ∈ cs.head?, isSpace c = false ∧ c ≠ '#' ∧ c ≠ '\uFEFF'

theorem BeginsToken.beginsWord {cs : List Char} (h : BeginsToken cs) : BeginsWord cs :=
  fun c hc => (h c hc).1

theorem IsName.beginsToken {name : List Char} (hname : IsName name) (rest : List Char) :
    BeginsToken (name ++ rest) := by
  intro d hd
  have hspace := hname.beginsWord rest d hd
  obtain ⟨c, name, rfl, hne⟩ := hname.exists_cons
  obtain rfl := Option.some.inj hd
  exact ⟨hspace, hne '#' (by decide), hne '\uFEFF' (by decide)⟩

/-- White space leads to a text in a column, and a name may begin there. -/
inductive Position.LeadsTo (column : Nat) (next : List Char) (p : Position) : Bool → Prop
  | here (h : p.IsAt column next) : LeadsTo column next p true
  | line {allowsName : Bool} {before : Nat} (h : p.IsAt before (nextLine column next)) :
      LeadsTo column next p allowsName

namespace TokenStream

/-- A stream that is in no flow collection and in which no name may have begun. -/
abbrev inBlock (here : Position) (queue : List Token) (taken : Nat) (indents : List Nat)
    (allowsName : Bool) : TokenStream :=
  ⟨here, queue, taken, indents, none, [], allowsName⟩

variable {p : Position} {column n taken : Nat} {indents : List Nat} {allowsName : Bool}
  {queue : List Token} {rest : List Char}

/-! ## White space -/

theorem skipSpaceFrom_indentation {s : TokenStream} (fuel : Nat)
    (hp : s.here.IsAt column (indentation n ++ rest)) (hrest : BeginsToken rest) :
    skipSpaceFrom (fuel + 1) s = { s with here := s.here.skip n } := by
  have hnoMark : s.here.rest.head? ≠ some '\uFEFF' := by
    rw [hp.rest_eq]
    cases n with
    | zero => exact fun hmark => (hrest _ hmark).2.2 rfl
    | succ n => exact fun hmark => absurd (Option.some.inj hmark) (by decide)
  have hblanks (test : Char → Bool) (hspace : test ' ' = true)
      (htest : ∀ c, isBlank c = false → test c = false) :
      s.here.skipWhile test = s.here.skip n := by
    have htaken : s.here.rest.takeWhile test = indentation n := by
      rw [hp.rest_eq]
      refine Text.takeWhile_append_eq_left (fun c hc => ?_) fun c hc =>
        htest c (isBlank_eq_false_of_isSpace (hrest c hc).1)
      rw [List.eq_of_mem_replicate hc, hspace]
    rw [Position.skipWhile, htaken, length_indentation]
  have hafter := hp.skip fun c hc => isBreak_eq_false_of_isBlank (isBlank_of_mem_indentation hc)
  rw [length_indentation] at hafter
  have hnoHash : (s.here.skip n).rest.head? ≠ some '#' := by
    rw [hafter.rest_eq]
    exact fun hhash => (hrest _ hhash).2.1 rfl
  have hnoBreak : (s.here.skip n).rest.head?.any isBreak = false := by
    rw [hafter.rest_eq]
    cases rest with
    | nil => rfl
    | cons c rest => exact isBreak_eq_false_of_isSpace (hrest c rfl).1
  rw [skipSpaceFrom]
  simp only [if_neg fun hmark => hnoMark (And.right hmark)]
  rw [hblanks _ rfl fun c hc => ?_]
  · simp [hnoHash, hnoBreak]
  · simp only [isBlank, Bool.or_eq_false_iff] at hc
    simp [hc]

theorem skipSpaceFrom_nextLine {s : TokenStream} {fuel : Nat} (hfuel : 2 ≤ fuel)
    (hflow : s.inFlow = false) (hp : s.here.IsAt column (nextLine n rest))
    (hrest : BeginsToken rest) :
    ∃ q, skipSpaceFrom fuel s = { s with here := q, allowsName := true } ∧ q.IsAt n rest := by
  obtain ⟨fuel, rfl⟩ := Nat.exists_eq_add_of_le' hfuel
  have hline := hp.next_line rfl
  have hafter := hline.skip fun c hc => isBreak_eq_false_of_isBlank (isBlank_of_mem_indentation hc)
  rw [length_indentation, Nat.zero_add] at hafter
  refine ⟨s.here.next.skip n, ?_, hafter⟩
  have hstep : skipSpaceFrom (fuel + 2) s =
      skipSpaceFrom (fuel + 1) { s with here := s.here.next, allowsName := true } := by
    rw [skipSpaceFrom]
    simp [hp.rest_eq, nextLine, Position.skipWhile, Position.skip, isBreak, hflow]
  rw [hstep]
  exact skipSpaceFrom_indentation fuel hline hrest

theorem closeBlocks_of_le {s : TokenStream} (h : ∀ indent ∈ s.indents.head?, indent ≤ column) :
    s.closeBlocks (column < ·) = s := by
  obtain ⟨here, queue, taken, indents, name, outerNames, allowsName⟩ := s
  have hnone : indents.takeWhile (column < ·) = [] := by
    cases indents with
    | nil => rfl
    | cons indent indents =>
        rw [List.takeWhile_cons, decide_eq_false (Nat.not_lt.mpr (h indent rfl)),
          if_neg Bool.false_ne_true]
  rw [closeBlocks]
  simp [hnone]

/-- Where no name may have begun, all that stands in the way of the next token is white space. -/
theorem approach?_inBlock {q : Position} {allowsNext : Bool}
    (h : skipSpaceFrom (p.rest.length + 1) (inBlock p queue taken indents allowsName) =
      inBlock q queue taken indents allowsNext) :
    (inBlock p queue taken indents allowsName).approach? =
      some ((inBlock q queue taken indents allowsNext).closeBlocks (q.column < ·)) := by
  rw [approach?, h]
  simp [dropLateNames?]

theorem approach?_of_leadsTo (hp : p.LeadsTo column rest allowsName) (hrest : BeginsToken rest) :
    ∃ q, (inBlock p queue taken indents allowsName).approach? =
        some ((inBlock q queue taken indents true).closeBlocks (column < ·)) ∧
      q.IsAt column rest := by
  cases hp with
  | here hp =>
      refine ⟨p, ?_, hp⟩
      rw [approach?_inBlock (@skipSpaceFrom_indentation _ 0 _
        (inBlock p queue taken indents true) _ hp hrest), Position.skip, hp.column_eq]
  | line hp =>
      have hfuel : 2 ≤ p.rest.length + 1 := by
        rw [hp.rest_eq, nextLine, List.length_cons]
        omega
      obtain ⟨q, hskip, hq⟩ := @skipSpaceFrom_nextLine _ _ _
        (inBlock p queue taken indents allowsName) _ hfuel rfl hp hrest
      refine ⟨q, ?_, hq⟩
      rw [approach?_inBlock hskip, hq.column_eq]

/-! ## Names -/

theorem scan?_of_startsPlain {s : TokenStream} (hrest : s.here.rest = rest)
    (hflow : s.inFlow = false) (hstart : startsPlain false rest = true)
    (hmark : s.here.isDocumentMark = false) : s.scan? = s.plain? := by
  cases rest with
  | nil => cases hstart
  | cons c rest =>
      rw [scan?, hrest]
      have hne (d : Char) (hd : ∀ cs, startsPlain false (d :: cs) = false) : c ≠ d := by
        rintro rfl
        rw [hd] at hstart
        cases hstart
      simp only [hmark, hne '%' fun _ => rfl, hflow, Bool.false_or, and_false, if_false,
        Bool.false_eq_true]
      rw [startsPlain] at hstart
      -- Nearly all other tokens begin with marks that no plain scalar begins with; the rest are told
      -- by what stands behind the mark.
      split <;> first | rfl | exact absurd rfl (hne _ fun _ => rfl) | skip
      all_goals simp at hstart; simp [hstart]

variable {name : List Char}

/-- The stream behind a name that began at a position, before its colon is seen. -/
abbrev behindName (start : Position) (name : List Char) (taken : Nat) (indents : List Nat)
    (isRequired : Bool) : TokenStream :=
  ⟨start.skip name.length, [.scalar ⟨String.ofList name, .plain⟩], taken, indents,
    some ⟨taken, isRequired, start⟩, [], false⟩

/-- The tokens of a name with its colon. -/
def nameTokens (name : List Char) : List Token :=
  [.key, .scalar ⟨String.ofList name, .plain⟩, .value]

/-- The name itself is fetched as a scalar that may begin a name. -/
theorem fetch?_name (hname : IsName name)
    (hp : p.LeadsTo column (name ++ ':' :: rest) allowsName) (hrest : endsWord rest = true)
    (hindents : ∀ indent ∈ indents.head?, indent ≤ column) :
    ∃ start, start.IsAt column (name ++ ':' :: rest) ∧
      (inBlock p [] taken indents allowsName).fetch? =
        some (behindName start name taken indents (indents.head? == some column)) := by
  obtain ⟨start, happroach, hstart⟩ := @approach?_of_leadsTo p column taken indents allowsName [] _
    hp (hname.beginsToken _)
  refine ⟨start, hstart, ?_⟩
  have hmark : start.isDocumentMark = false := by
    rw [Position.isDocumentMark, hstart.rest_eq, hname.isDocumentMark_eq_false, Bool.and_false]
  have hplain := hname.startsPlain (':' :: rest)
  rw [fetch?, happroach, Option.bind_some, closeBlocks_of_le hindents,
    scan?_of_startsPlain hstart.rest_eq rfl hplain hmark, plain?]
  simp only [inBlock, inFlow, List.isEmpty_nil, Bool.not_true, hstart.rest_eq, hplain, if_true]
  simp [saveName?, dropName?, inFlow, hname.plain?_eq hstart hrest, push, hstart.column_eq]

variable {start : Position} {isRequired : Bool}

/-- A short name is not too late. -/
theorem dropLateNames?_behindName (hname : IsName name)
    (hstart : start.IsAt column (name ++ ':' :: rest)) (hlength : name.length ≤ 1024) :
    (behindName start name taken indents isRequired).dropLateNames? =
      some (behindName start name taken indents isRequired) := by
  have hexact := Position.skip_of_isUnbroken hstart.rest_eq hname.isUnbroken
  have hinTime : (behindName start name taken indents isRequired).isTooLate
      ⟨taken, isRequired, start⟩ = false := by
    simp [isTooLate, hexact]
    omega
  simp [dropLateNames?, hinTime]

/-- The colon shows that a name has begun, and maybe a mapping with it. -/
theorem fetch?_colon (hname : IsName name) (hstart : start.IsAt column (name ++ ':' :: rest))
    (hrest : endsWord rest = true) (hindents : ∀ indent ∈ indents.head?, indent ≤ column)
    (hlength : name.length ≤ 1024) :
    (behindName start name taken indents isRequired).fetch? =
      some ((inBlock (start.skip name.length).next (nameTokens name) taken indents false).openBlock
        .blockMapping column taken) := by
  have hbehind := hstart.skip hname.isUnbroken
  have hcolon : BeginsToken (':' :: rest) := fun c hc => by
    obtain rfl := Option.some.inj hc
    decide
  have hcolumn : 0 < column + name.length :=
    Nat.add_pos_right _ (List.length_pos_iff.mpr hname.ne_nil)
  have hmark := hbehind.isDocumentMark_eq_false hcolumn
  have hinside : ∀ indent ∈ indents.head?, indent ≤ (start.skip name.length).column := by
    intro indent hindent
    rw [hbehind.column_eq]
    exact (hindents indent hindent).trans (Nat.le_add_right _ _)
  have hskip := @skipSpaceFrom_indentation _ 0 _
    (behindName start name taken indents isRequired) (start.skip name.length).rest.length hbehind
    hcolon
  rw [fetch?, approach?, hskip, Position.skip, dropLateNames?_behindName hname hstart hlength,
    Option.bind_eq_bind, Option.bind_some, Option.bind_some, closeBlocks_of_le hinside, scan?,
    hbehind.rest_eq]
  simp only [hmark, hbehind.column_eq, Nat.ne_of_gt hcolumn, hrest, value?, false_and, if_false,
    Bool.or_true, if_true, Bool.false_eq_true, Nat.sub_self, hstart.column_eq]
  -- The key, and the mapping if one begins, are put in front of the name that was fetched.
  by_cases hopens : column < indents.head?.elim 0 (· + 1) <;>
    simp [openBlock, inFlow, low, hopens, pushSkip, push, nameTokens, Position.skip]

/-! ## The next token -/

/-- Where no name may have begun the first token is certain. -/
theorem peekFrom?_of_queue (fuel : Nat) (token : Token) :
    peekFrom? (fuel + 1) (inBlock p (token :: queue) taken indents allowsName) =
      some (token, inBlock p (token :: queue) taken indents allowsName) := by
  simp [peekFrom?, dropLateNames?, isHeadOpen]

theorem peek?_of_queue (token : Token) :
    (inBlock p (token :: queue) taken indents allowsName).peek? =
      some (token, inBlock p (token :: queue) taken indents allowsName) :=
  peekFrom?_of_queue _ token

theorem peek?_of_fetch? {q : Position} {allowsNext : Bool} {token : Token} {inside : List Nat}
    (h : (inBlock p [] taken indents allowsName).fetch? =
      some (inBlock q (token :: queue) taken inside allowsNext)) :
    (inBlock p [] taken indents allowsName).peek? =
      some (token, inBlock q (token :: queue) taken inside allowsNext) := by
  rw [peek?, peekFrom?]
  simp only [h, Option.bind_some, peekFrom?_of_queue]

/-- A name is taken for one when its colon is seen. -/
theorem peek?_name (hname : IsName name)
    (hp : p.LeadsTo column (name ++ ':' :: rest) allowsName) (hrest : endsWord rest = true)
    (hindents : ∀ indent ∈ indents.head?, indent ≤ column) (hlength : name.length ≤ 1024) :
    ∃ q, q.IsAt (column + name.length + 1) rest ∧
      (inBlock p [] taken indents allowsName).peek? =
        peekFrom? (p.rest.length + 1)
          ((inBlock q (nameTokens name) taken indents false).openBlock .blockMapping column
            taken) := by
  obtain ⟨start, hstart, hfetch⟩ := @fetch?_name p column taken indents allowsName rest name hname
    hp hrest hindents
  refine ⟨_, (hstart.skip hname.isUnbroken).next rfl, ?_⟩
  rw [peek?, peekFrom?, hfetch, Option.bind_some, peekFrom?]
  simp [dropLateNames?_behindName hname hstart hlength, isHeadOpen,
    fetch?_colon hname hstart hrest hindents hlength]

/-- A name in the column of its block is the next entry. -/
theorem peek?_nextName {outer : List Nat} (hname : IsName name)
    (hp : p.LeadsTo column (name ++ ':' :: rest) allowsName) (hrest : endsWord rest = true)
    (hlength : name.length ≤ 1024) :
    ∃ q, q.IsAt (column + name.length + 1) rest ∧
      (inBlock p [] taken (column :: outer) allowsName).peek? =
        some (.key, inBlock q (nameTokens name) taken (column :: outer) false) := by
  obtain ⟨q, hq, hpeek⟩ := @peek?_name p column taken (column :: outer) allowsName rest name hname
    hp hrest (fun indent hindent => by obtain rfl := Option.some.inj hindent; exact Nat.le_refl _)
    hlength
  refine ⟨q, hq, hpeek.trans ?_⟩
  rw [openBlock, if_pos (by simp [low])]
  exact peekFrom?_of_queue _ _

/-- A name further in begins a mapping. -/
theorem peek?_firstName (hname : IsName name)
    (hp : p.LeadsTo column (name ++ ':' :: rest) allowsName) (hrest : endsWord rest = true)
    (hindents : ∀ indent ∈ indents.head?, indent < column) (hlength : name.length ≤ 1024) :
    ∃ q, q.IsAt (column + name.length + 1) rest ∧
      (inBlock p [] taken indents allowsName).peek? =
        some (.blockMapping,
          inBlock q (.blockMapping :: nameTokens name) taken (column :: indents) false) := by
  obtain ⟨q, hq, hpeek⟩ := @peek?_name p column taken indents allowsName rest name hname hp hrest
    (fun indent hindent => (hindents indent hindent).le) hlength
  refine ⟨q, hq, hpeek.trans ?_⟩
  have hopens : ¬column < indents.head?.elim 0 (· + 1) := by
    cases indents with
    | nil => exact Nat.not_lt_zero _
    | cons indent indents => exact Nat.not_lt.mpr (hindents indent rfl)
  have hopened : (inBlock q (nameTokens name) taken indents false).openBlock .blockMapping column
      taken = inBlock q (.blockMapping :: nameTokens name) taken (column :: indents) false := by
    simp [openBlock, low, inFlow, hopens]
  rw [hopened]
  exact peekFrom?_of_queue _ _

/-! ## The end -/

/-- At the end of the text every block ends. -/
theorem fetch?_end (hp : p.LeadsTo 0 [] allowsName) :
    ∃ q, (inBlock p [] taken indents allowsName).fetch? =
      some (inBlock q (List.replicate indents.length .blockEnd ++ [.streamEnd]) taken []
        false) := by
  obtain ⟨q, happroach, hq⟩ := @approach?_of_leadsTo p 0 taken indents allowsName [] _ hp
    (fun c hc => by cases hc)
  refine ⟨q, ?_⟩
  have hall (inner : List Nat) : inner.takeWhile (fun _ => true) = inner :=
    List.takeWhile_eq_self_iff.mpr fun _ _ => rfl
  have hsum : (indents.takeWhile (0 < ·)).length +
      (indents.length - (indents.takeWhile (0 < ·)).length) = indents.length :=
    Nat.add_sub_cancel' (List.takeWhile_sublist _).length_le
  rw [fetch?, happroach, Option.bind_some, closeBlocks, scan?]
  simp only [hq.rest_eq, hq.column_eq, inFlow, endText?, closeBlocks, dropName?, push, inBlock,
    hall, List.isEmpty_nil, Bool.not_true, Bool.false_eq_true, if_false, if_true, Option.any_none,
    Option.bind_eq_bind, Option.bind_some, List.nil_append, List.length_drop,
    List.replicate_append_replicate, List.drop_drop, hsum,
    List.drop_length]

theorem peek?_end {indent : Nat} (hp : p.LeadsTo 0 [] allowsName) :
    ∃ q, (inBlock p [] taken (indent :: indents) allowsName).peek? =
      some (.blockEnd, inBlock q (List.replicate (indents.length + 1) .blockEnd ++ [.streamEnd])
        taken [] false) := by
  obtain ⟨q, hfetch⟩ := @fetch?_end p taken (indent :: indents) allowsName hp
  exact ⟨q, peek?_of_fetch? hfetch⟩

end TokenStream

end JetStream.Yaml

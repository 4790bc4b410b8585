import JetStream.Proofs.Yaml.Block
import JetStream.Proofs.Yaml.Quoted
import JetStream.Proofs.Yaml.Stream

/-!
# Scalars behind names

However a text is set off when it is written behind a name, the scalar that is fetched there says
the same text, and the reader comes to the line behind it.
-/

namespace JetStream.Yaml

open TokenStream

/-- Behind a name in a column, what is written is fetched as a scalar. -/
structure StandsFor (base : Nat) (written : List Char) (value : Scalar) : Prop where
  begins : ∀ rest, BeginsToken (written ++ rest)
  scan : ∀ (p : Position) (column taken n : Nat) (outer : List Nat) (next : List Char),
    base < column → n ≤ base → BeginsWord next →
    p.IsAt column (written ++ (closingBreak written ++ (indentation n ++ next))) →
    ∃ after allowsName, (inBlock p [] taken (base :: outer) false).scan? =
        some (inBlock after [.scalar value] taken (base :: outer) allowsName) ∧
      after.LeadsTo n next allowsName

variable {base : Nat} {cs written : List Char}

theorem BeginsToken.of_head {c : Char} (hspace : isSpace c = false) (hhash : c ≠ '#')
    (hmark : c ≠ '\uFEFF') (rest : List Char) : BeginsToken (c :: rest) := fun d hd => by
  obtain rfl := Option.some.inj hd
  exact ⟨hspace, hhash, hmark⟩

/-! ## Plain -/

theorem IsPlain.isUnbroken (h : IsPlain cs) : IsUnbroken cs := fun c hc => by
  rw [Bool.eq_false_iff]
  intro hbreak
  rw [h.spaces c hc (isSpace_of_isBreak hbreak)] at hbreak
  exact absurd hbreak (by decide)

theorem standsFor_plain (hplain : IsPlain cs) (hstart : startsPlain false cs = true)
    (hmark : '\uFEFF' ∉ cs) : StandsFor base cs ⟨String.ofList cs, .plain⟩ where
  begins rest := by
    cases cs with
    | nil => cases hstart
    | cons c cs =>
        refine .of_head (hplain.head c rfl) ?_ (fun heq => hmark (by simp [heq])) _
        rintro rfl
        cases hstart
  scan p column taken n outer next hcolumn hn hnext hp := by
    have hne : cs ≠ [] := by
      rintro rfl
      cases hstart
    have hclosing : closingBreak cs = ['\n'] := by
      rw [closingBreak, endsLine_of_isUnbroken hplain.isUnbroken]
      rfl
    rw [hclosing] at hp
    have hp : p.IsAt column (cs ++ nextLine n next) := hp
    obtain ⟨after, hread, hafter⟩ :=
      @plain?_of_isPlain (base + 1) n column cs next p hp hplain hne hcolumn (Nat.lt_succ_of_le hn)
        hnext
    have hstart' := startsPlain_append (rfl : endsWord (nextLine n next) = true) hstart
    refine ⟨after, true, ?_, .here hafter⟩
    rw [scan?_of_startsPlain hp.rest_eq rfl hstart' (hp.isDocumentMark_eq_false (by omega))]
    simp [TokenStream.plain?, inFlow, saveName?, hp.rest_eq, hstart', low, hread, push]

/-! ## Quoted -/

theorem endsLine_concat_quote {c : Char} (hc : isBreak c = false) :
    closingBreak (cs ++ [c]) = ['\n'] := by
  have hends : endsLine (cs ++ [c]) = false := by
    rw [endsLine_append (List.cons_ne_nil c [])]
    exact hc
  rw [closingBreak, hends]
  rfl

/-- The scalar between quotes of one kind. -/
theorem standsFor_quoted {quote : Char} {body text : List Char}
    {read : Position → Option (List Char × Position)}
    (hquote : quote = '\x27' ∧ read = singleQuoted? ∨ quote = '"' ∧ read = doubleQuoted?)
    (hwritten : written = quote :: body ++ [quote])
    (hread : ∀ (p : Position) (column : Nat) (tail : List Char), 0 < column →
      p.IsAt column (body ++ quote :: '\n' :: tail) →
      ∃ after behind, read p = some (text, after) ∧ after.IsAt behind ('\n' :: tail)) :
    StandsFor base written ⟨String.ofList text, .quoted⟩ where
  begins rest := by
    rw [hwritten]
    rcases hquote with ⟨rfl, -⟩ | ⟨rfl, -⟩ <;>
      exact .of_head (by decide) (by decide) (by decide) _
  scan p column taken n outer next hcolumn hn hnext hp := by
    have hclosing : closingBreak written = ['\n'] := by
      rw [hwritten]
      refine endsLine_concat_quote ?_
      rcases hquote with ⟨rfl, -⟩ | ⟨rfl, -⟩ <;> rfl
    have hp : p.IsAt column (quote :: (body ++ quote :: nextLine n next)) := by
      rw [hclosing, hwritten] at hp
      simpa [nextLine] using hp
    have hbreak : isBreak quote = false := by
      rcases hquote with ⟨rfl, -⟩ | ⟨rfl, -⟩ <;> rfl
    obtain ⟨after, behind, hscalar, hafter⟩ :=
      hread p.next (column + 1) _ (Nat.succ_pos _) (hp.next hbreak)
    refine ⟨after, false, ?_, .line hafter⟩
    have hmark := hp.isDocumentMark_eq_false (by omega)
    have hscan : (inBlock p [] taken (base :: outer) false).scan? =
        (inBlock p [] taken (base :: outer) false).quoted? read := by
      rcases hquote with ⟨rfl, rfl⟩ | ⟨rfl, rfl⟩ <;> rw [scan?, hp.rest_eq] <;>
        simp [hmark]
    rw [hscan]
    simp [TokenStream.quoted?, saveName?, hscalar, push]

/-! ## Literal -/

theorem closingBreak_literalBlock {indent : Nat} (hne : cs ≠ []) :
    closingBreak (literalBlock indent cs) = closingBreak cs := by
  have hlast := @getLast?_indented indent true cs
  have hbodyNe : indented indent ([·]) true cs ≠ [] := by
    intro hnil
    rw [hnil, List.getLast?_nil, eq_comm, List.getLast?_eq_none_iff] at hlast
    exact hne hlast
  have hends : endsLine (literalBlock indent cs) = endsLine cs := by
    have hsplit : literalBlock indent cs =
        ('|' :: (if cs.head?.any isSpace then ['2'] else []) ++ chompingMark cs ++ ['\n']) ++
          indented indent ([·]) true cs := by
      simp [literalBlock]
    rw [hsplit, endsLine_append hbodyNe, endsLine, hlast, endsLine]
  rw [closingBreak, closingBreak, hends]

theorem standsFor_literalBlock (hne : cs ≠ []) :
    StandsFor base (literalBlock (base + 2) cs) ⟨String.ofList cs, .literal⟩ where
  begins rest := .of_head (by decide) (by decide) (by decide) _
  scan p column taken n outer next hcolumn hn hnext hp := by
    rw [closingBreak_literalBlock hne] at hp
    have hp : p.IsAt column ('|' :: (hintMark (cs.head?.any isSpace) ++ (chompingMark cs ++
        '\n' :: (indented (base + 1 + 1) ([·]) true cs ++
          (closingBreak cs ++ (indentation n ++ next)))))) := by
      simpa [literalBlock, hintMark] using hp
    obtain ⟨after, hread, hafter⟩ := blockScalar?_literal hne (Nat.succ_pos base)
      (Nat.lt_succ_of_le hn) hnext (hp.next rfl)
    refine ⟨after, true, ?_, .here hafter⟩
    have hmark := hp.isDocumentMark_eq_false (by omega)
    rw [scan?, hp.rest_eq]
    simp [hmark, inFlow, block?, dropName?, low, hread, push]

/-! ## Every text -/

/-- All characters can stand in a document. -/
def IsWritten (cs : List Char) : Prop := ∀ c ∈ cs, isWritable c = true

theorem eq_space_or_isBreak {c : Char} (hwritable : isWritable c = true)
    (hspace : isSpace c = true) : c = ' ' ∨ isBreak c = true := by
  by_cases hbreak : isBreak c = true
  · exact .inr hbreak
  · simp only [isSpace, isBlank, hbreak, Bool.or_false, Bool.or_eq_true, decide_eq_true_eq]
      at hspace
    refine .inl (hspace.resolve_right ?_)
    rintro rfl
    exact absurd hwritable (by decide)

/-- A text that can be set off in one of the styles. -/
def Style.Suits (s : String) : Style → Prop
  | .plain => IsWritten s.toList ∧ IsUnbroken s.toList ∧
      hasMark s.toList = false ∧ hasOuterSpace s.toList = false ∧ s.toList ≠ []
  | .single => IsWritten s.toList ∧ IsFoldable s.toList
  | .double => True
  | .literal => IsWritten s.toList ∧ s.toList ≠ []

theorem suits_ofText (s : String) : (Style.ofText s).Suits s := by
  -- Along the choices in their order: each refusal is what a later style needs.
  unfold Style.ofText
  dsimp only
  split
  · trivial
  rename_i hwritable
  have hwritable : IsWritten s.toList := by simpa [IsWritten] using hwritable
  have hfoldable (hfeed : '\n' ∉ s.toList) (hbefore : hasSpaceBeforeBreak s.toList = false)
      (hafter : hasSpaceAfterBreak s.toList = false) : IsFoldable s.toList :=
    ⟨fun c hc => eq_space_or_isBreak (hwritable c hc), hfeed, hbefore, hafter⟩
  split
  · rename_i hfeed
    split
    · trivial
    · exact ⟨hwritable, fun hnil => by simp [hnil] at hfeed⟩
  · rename_i hfeed
    have hfeed : '\n' ∉ s.toList := by simpa using hfeed
    split
    · split
      · trivial
      · rename_i hspaces
        obtain ⟨hbefore, hafter⟩ := Bool.or_eq_false_iff.mp (Bool.eq_false_iff.mpr hspaces)
        exact ⟨hwritable, hfoldable hfeed hbefore hafter⟩
    · rename_i hbreak
      have hline : IsUnbroken s.toList := by simpa [IsUnbroken] using hbreak
      split
      · exact ⟨hwritable, hfoldable hfeed (hasSpaceBeforeBreak_of_isUnbroken hline)
          (hasSpaceAfterBreak_of_isUnbroken hline)⟩
      · rename_i hmarks
        simp only [Bool.not_eq_true, Bool.or_eq_false_iff] at hmarks
        obtain ⟨⟨hquotes, hmark⟩, houter⟩ := hmarks
        refine ⟨hwritable, hline, hmark, houter, fun hnil => ?_⟩
        rw [needsQuotes, ← String.ofList_toList (s := s), hnil] at hquotes
        exact absurd hquotes (by decide)

theorem isInnerMark_of_startsPlain {c : Char} (h : startsPlain false (c :: cs) = true)
    (before : Char) : isInnerMark before c cs = false := by
  have hhash : c ≠ '#' := by
    rintro rfl
    cases h
  have hcolon : c = ':' → endsWord cs = false := by
    rintro rfl
    simpa [startsPlain] using h
  by_cases hc : c = ':'
  · simp [isInnerMark, hcolon hc, hhash]
  · simp [isInnerMark, hc, hhash]

/-- What suits the plain style can be read as a plain scalar. -/
theorem isPlain_of_suits {s : String} (h : Style.plain.Suits s) :
    IsPlain s.toList ∧ startsPlain false s.toList = true := by
  obtain ⟨hwritable, hline, hmark, houter, hne⟩ := h
  obtain ⟨hfirst, hlast⟩ := Bool.or_eq_false_iff.mp houter
  have hspaces : ∀ c ∈ s.toList, isSpace c = true → c = ' ' := fun c hc hspace =>
    (eq_space_or_isBreak (hwritable c hc) hspace).resolve_right fun hbreak => by
      rw [hline c hc] at hbreak
      cases hbreak
  have hend {c : Char} {found : Option Char} (hfound : (found == some ' ') = false)
      (hc : found = some c) (hmem : c ∈ s.toList) : isSpace c = false := by
    rw [Bool.eq_false_iff]
    intro hspace
    rw [hc, hspaces c hmem hspace] at hfound
    exact absurd hfound (by decide)
  have hstart : startsPlain false s.toList = true ∧ hasInnerMark ' ' s.toList = false := by
    obtain ⟨c, cs, hcs⟩ := List.exists_cons_of_ne_nil hne
    rw [hcs, hasMark] at hmark
    simp only [Bool.or_eq_false_iff, Bool.not_eq_false'] at hmark
    obtain ⟨⟨hstart, -⟩, hinner⟩ := hmark
    rw [hcs, hasInnerMark, isInnerMark_of_startsPlain hstart, hinner]
    exact ⟨hstart, rfl⟩
  exact ⟨⟨fun c hc => hend hfirst hc (List.mem_of_mem_head? hc),
    fun c hc => hend hlast hc (List.mem_of_getLast? hc), hspaces, hstart.2⟩, hstart.1⟩

/-- Whatever a text is, its scalar says it. -/
theorem standsFor_scalarText (base : Nat) (s : String) :
    ∃ style, StandsFor base (scalarText (base + 2) s).toList ⟨s, style⟩ := by
  have hsuits := suits_ofText s
  unfold scalarText
  cases hstyle : Style.ofText s with
  | plain =>
      rw [hstyle] at hsuits
      obtain ⟨hplain, hstart⟩ := isPlain_of_suits hsuits
      have hstands := @standsFor_plain base s.toList hplain hstart fun hmark =>
        absurd (hsuits.1 _ hmark) (by decide)
      exact ⟨.plain, by rwa [String.ofList_toList] at hstands⟩
  | single =>
      rw [hstyle] at hsuits
      refine ⟨.quoted, ?_⟩
      have hstands := @standsFor_quoted base (singleQuoted (base + 2) s.toList) '\x27'
        (indented (base + 2) singleQuotedChar false s.toList ++
          if endsLine s.toList then indentation (base + 2) else []) s.toList singleQuoted?
        (.inl ⟨rfl, rfl⟩) rfl fun p column tail hcolumn hp => ?_
      · simpa only [String.toList_ofList, String.ofList_toList] using hstands
      · refine @singleQuoted?_eq (base + 2) _ _ _ _ ?_ hcolumn (Nat.succ_pos _) (by simp) hsuits.2
        simpa [singleBody] using hp
  | double =>
      refine ⟨.quoted, ?_⟩
      have hstands := @standsFor_quoted base (doubleQuoted s.toList) '"'
        (s.toList.flatMap doubleQuotedChar) s.toList doubleQuoted? (.inr ⟨rfl, rfl⟩) rfl
        fun p column tail hcolumn hp => doubleQuoted?_eq hcolumn hp
      simpa only [String.toList_ofList, String.ofList_toList] using hstands
  | literal =>
      rw [hstyle] at hsuits
      refine ⟨.literal, ?_⟩
      have hstands := @standsFor_literalBlock base s.toList hsuits.2
      simpa only [String.toList_ofList, String.ofList_toList] using hstands

/-! ## Characters that are written -/

theorem isWritten_indentation (indent : Nat) : IsWritten (indentation indent) := fun c hc => by
  rw [List.eq_of_mem_replicate hc]
  rfl

theorem isWritten_singleQuoted (indent : Nat) (h : IsWritten cs) :
    IsWritten (singleQuoted indent cs) := by
  have hchars : IsWritten (indented indent singleQuotedChar false cs) := by
    refine forall_mem_indented (show isWritable ' ' = true from rfl)
      (fun c hc => ⟨h c hc, fun d hd => ?_⟩) false
    unfold singleQuotedChar at hd
    split at hd
    · have hquotes : ['\x27', '\x27'].all isWritable = true := by decide
      exact List.all_eq_true.mp hquotes d hd
    · rw [List.mem_singleton.mp hd]
      exact h c hc
  have hclosing : IsWritten (if endsLine cs then indentation indent else []) := by
    split
    · exact isWritten_indentation indent
    · exact List.forall_mem_nil _
  exact List.forall_mem_append.mpr
    ⟨List.forall_mem_append.mpr ⟨List.forall_mem_cons.mpr ⟨rfl, hchars⟩, hclosing⟩,
      List.forall_mem_singleton.mpr rfl⟩

theorem isWritten_hexPlaces (places n : Nat) : IsWritten (Text.hexPlaces places n) :=
  forall_mem_hexPlaces (by decide) places n

theorem isWritten_doubleQuotedChar (c : Char) : IsWritten (doubleQuotedChar c) := by
  unfold doubleQuotedChar
  cases hshort : shortEscapeOf? c with
  | some e =>
      have he : isWritable e = true := by
        unfold shortEscapeOf? at hshort
        split at hshort <;> cases hshort <;> rfl
      exact List.forall_mem_cons.mpr ⟨rfl, List.forall_mem_singleton.mpr he⟩
  | none =>
      have hescape {letter : Char} (hletter : isWritable letter = true) (places : Nat) :
          IsWritten ('\\' :: letter :: Text.hexPlaces places c.toNat) :=
        List.forall_mem_cons.mpr
          ⟨rfl, List.forall_mem_cons.mpr ⟨hletter, isWritten_hexPlaces places _⟩⟩
      dsimp only
      split
      · rename_i hc
        exact List.forall_mem_singleton.mpr hc
      · split
        · exact hescape rfl 2
        · split
          · exact hescape rfl 4
          · exact hescape rfl 8

theorem isWritten_doubleQuoted (cs : List Char) : IsWritten (doubleQuoted cs) := by
  refine List.forall_mem_append.mpr
    ⟨List.forall_mem_cons.mpr ⟨rfl, fun d hd => ?_⟩, List.forall_mem_singleton.mpr rfl⟩
  obtain ⟨c, -, hd⟩ := List.mem_flatMap.mp hd
  exact isWritten_doubleQuotedChar c d hd

theorem isWritten_literalBlock (indent : Nat) (h : IsWritten cs) :
    IsWritten (literalBlock indent cs) := by
  have hmark : IsWritten (chompingMark cs) := by
    unfold chompingMark
    split
    · exact List.forall_mem_singleton.mpr rfl
    · split
      · exact List.forall_mem_singleton.mpr rfl
      · exact List.forall_mem_nil _
  have hhint : IsWritten (if cs.head?.any isSpace then ['2'] else []) := by
    split
    · exact List.forall_mem_singleton.mpr rfl
    · exact List.forall_mem_nil _
  have hlines : IsWritten (indented indent ([·]) true cs) :=
    forall_mem_indented (show isWritable ' ' = true from rfl)
      (fun c hc => ⟨h c hc, List.forall_mem_singleton.mpr (h c hc)⟩) true
  exact List.forall_mem_append.mpr
    ⟨List.forall_mem_append.mpr ⟨List.forall_mem_cons.mpr ⟨rfl, hhint⟩, hmark⟩,
      List.forall_mem_cons.mpr ⟨rfl, hlines⟩⟩

theorem isWritten_scalarText (indent : Nat) (s : String) :
    IsWritten (scalarText indent s).toList := by
  have hsuits := suits_ofText s
  unfold scalarText
  cases hstyle : Style.ofText s <;> rw [hstyle] at hsuits
  case plain => exact hsuits.1
  all_goals rw [String.toList_ofList]
  case single => exact isWritten_singleQuoted indent hsuits.1
  case double => exact isWritten_doubleQuoted _
  case literal => exact isWritten_literalBlock indent hsuits.1

end JetStream.Yaml

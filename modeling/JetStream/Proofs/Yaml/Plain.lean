import JetStream.Proofs.Yaml.Positions
import JetStream.Yaml.Plain

/-!
# Plain scalars read back

A text that a plain scalar can hold is read word by word, with the blanks between the words as they
stand, up to the end of its line.
-/

namespace JetStream.Yaml

/-- A plain scalar on one line can say this: its only white space are spaces between words, and no
mark is behind them. -/
structure IsPlain (cs : List Char) : Prop where
  head : ∀ c ∈ cs.head?, isSpace c = false
  last : ∀ c ∈ cs.getLast?, isSpace c = false
  spaces : ∀ c ∈ cs, isSpace c = true → c = ' '
  noMark : hasInnerMark ' ' cs = false

/-- One word can be said plainly. -/
theorem IsPlain.of_word {word : List Char} (hword : word.any isSpace = false)
    (hmark : hasInnerMark ' ' word = false) : IsPlain word := by
  have hspace : ∀ c ∈ word, isSpace c = false := fun c hc =>
    Bool.eq_false_iff.mpr (List.any_eq_false.mp hword c hc)
  refine ⟨fun c hc => hspace c (List.mem_of_mem_head? hc),
    fun c hc => hspace c (List.mem_of_getLast? hc), fun c hc hblank => ?_, hmark⟩
  rw [hspace c hc] at hblank
  cases hblank

variable {before : Char} {word more tail : List Char}

/-! ## Words -/

theorem endsWord_append (htail : endsWord tail = true) (cs : List Char) :
    endsWord (cs ++ tail) = endsWord cs := by
  cases cs with
  | nil => exact htail
  | cons c cs => rfl

theorem startsPlain_append {cs : List Char} (htail : endsWord tail = true)
    (h : startsPlain false cs = true) : startsPlain false (cs ++ tail) = true := by
  cases cs with
  | nil => cases h
  | cons c cs =>
      rw [startsPlain] at h
      rwa [List.cons_append, startsPlain, endsWord_append htail]

theorem word?_of_endsWord {cs : List Char} (h : endsWord cs = true) :
    word? false cs = some [] := by
  cases cs with
  | nil => rfl
  | cons c cs =>
      have hc : isSpace c = true := h
      rw [word?, if_pos hc]

theorem word?_cons {c : Char} {cs : List Char} (hc : isSpace c = false)
    (hmark : (c = ':' && endsWord cs) = false) :
    word? false (c :: cs) = (word? false cs).map (c :: ·) := by
  rw [word?]
  simp only [hc, hmark, Bool.false_and, Bool.or_false, Bool.false_eq_true, if_false]

/-- A word ends at white space; a colon inside of it is no mark. -/
theorem word?_append (hword : ∀ c ∈ word, isSpace c = false) (hmore : endsWord more = true)
    (htail : endsWord tail = true) (hmark : hasInnerMark before (word ++ more) = false) :
    word? false (word ++ (more ++ tail)) = some word := by
  induction word generalizing before with
  | nil => exact word?_of_endsWord ((endsWord_append htail more).trans hmore)
  | cons c word ih =>
      obtain ⟨hc, hword⟩ := List.forall_mem_cons.mp hword
      obtain ⟨hfirst, hrest⟩ := Bool.or_eq_false_iff.mp hmark
      have hcolon : (c = ':' && endsWord (word ++ (more ++ tail))) = false := by
        rw [← List.append_assoc, endsWord_append htail]
        exact (Bool.or_eq_false_iff.mp hfirst).1
      rw [List.cons_append, word?_cons hc hcolon, ih hword hrest, Option.map_some]

/-! ## Rows of words -/

theorem hasTabIndent_append {low : Nat} {gap rest : List Char} (hgap : ∀ c ∈ gap, c ≠ '\t')
    (hrest : BeginsWord rest) (isLater : Bool) (column : Nat) :
    hasTabIndent low isLater column (gap ++ rest) = false := by
  induction gap generalizing isLater column with
  | nil =>
      cases rest with
      | nil => rfl
      | cons c rest =>
          have hc := hrest c rfl
          rw [List.nil_append, hasTabIndent, isBreak_eq_false_of_isSpace hc,
            isBlank_eq_false_of_isSpace hc, if_neg Bool.false_ne_true, if_neg Bool.false_ne_true]
  | cons c gap ih =>
      obtain ⟨hc, hgap⟩ := List.forall_mem_cons.mp hgap
      rw [List.cons_append, hasTabIndent]
      simp only [ih hgap, decide_eq_false hc, Bool.and_false, Bool.false_and, Bool.or_false,
        ite_self]

theorem IsPlain.head_ne_hash {cs : List Char} (h : IsPlain cs) (tail : List Char) (hne : cs ≠ []) :
    ((cs ++ tail).head? == some '#') = false := by
  cases cs with
  | nil => exact absurd rfl hne
  | cons c cs =>
      rw [List.cons_append, List.head?_cons, beq_eq_false_iff_ne]
      rintro heq
      obtain rfl := Option.some.inj heq
      have hmark := h.noMark
      rw [hasInnerMark] at hmark
      exact absurd (Bool.or_eq_false_iff.mp hmark).1 (by simp [isInnerMark, isBlank])

theorem hasInnerMark_getLastD {rest : List Char} (front : List Char)
    (h : hasInnerMark before (front ++ rest) = false) :
    hasInnerMark (front.getLastD before) rest = false := by
  induction front generalizing before with
  | nil => exact h
  | cons c front ih =>
      rw [List.getLastD_cons]
      exact ih (Bool.or_eq_false_iff.mp h).2

/-- A gap stands between two words. -/
theorem IsPlain.ne_nil_of_gap {word gap rest : List Char} (h : IsPlain (word ++ (gap ++ rest)))
    (hne : gap ≠ []) (hgap : ∀ c ∈ gap, isSpace c = true) : word ≠ [] ∧ rest ≠ [] := by
  constructor
  · rintro rfl
    obtain ⟨c, gap, rfl⟩ := List.exists_cons_of_ne_nil hne
    exact Bool.false_ne_true ((h.head c rfl).symm.trans (hgap c List.mem_cons_self))
  · rintro rfl
    have hlast : (word ++ (gap ++ [])).getLast? = some (gap.getLast hne) := by
      rw [List.append_nil, List.getLast?_append, List.getLast?_eq_some_getLast hne]
      rfl
    exact Bool.false_ne_true ((h.last _ hlast).symm.trans (hgap _ (List.getLast_mem hne)))

/-- What is behind a gap can stand by itself. -/
theorem IsPlain.of_append {word gap rest : List Char} (h : IsPlain (word ++ (gap ++ rest)))
    (hne : gap ≠ []) (hgap : ∀ c ∈ gap, isSpace c = true) (hrest : BeginsWord rest) :
    IsPlain rest where
  head := hrest
  last c hc := h.last c (by rw [List.getLast?_append, List.getLast?_append, hc]; rfl)
  spaces c hc := h.spaces c (List.mem_append_right _ (List.mem_append_right _ hc))
  noMark := by
    have hmark := h.noMark
    rw [← List.append_assoc] at hmark
    have hlast := List.getLast_mem hne
    have hspace : gap.getLast hne = ' ' :=
      h.spaces _ (List.mem_append_right _ (List.mem_append_left _ hlast)) (hgap _ hlast)
    have hmark := hasInnerMark_getLastD (word ++ gap) hmark
    rwa [List.getLastD_eq_getLast?, List.getLast?_append, List.getLast?_eq_some_getLast hne,
      hspace] at hmark

/-- The first word, and the gap behind it. -/
theorem plainWords?_succ {low fuel column : Nat} {p : Position} {rest : List Char} {gap : Gap}
    (hp : p.IsAt column (word ++ rest)) (hcolumn : 0 < column)
    (hhash : ((word ++ rest).head? == some '#') = false)
    (hread : word? false (word ++ rest) = some word)
    (hgap : (p.skip word.length).gap = gap) (hne : gap.isEmpty = false)
    (htab : hasTabIndent low false (p.skip word.length).column (p.skip word.length).rest = false) :
    plainWords? false low (fuel + 1) p =
      if gap.after.column < low then some ⟨word, gap.isBroken, gap.after⟩
      else (plainWords? false low fuel gap.after).bind fun more =>
        if more.text = [] then some ⟨word, gap.isBroken, more.after⟩
        else some ⟨word ++ gap.text ++ more.text, more.isLineEnded, more.after⟩ := by
  rw [plainWords?, hp.isDocumentMark_eq_false hcolumn, hp.rest_eq, hhash, hread]
  simp only [hgap, hne, htab, Bool.or_false, Bool.not_false, Bool.true_and, Bool.false_eq_true,
    if_false, Option.bind_eq_bind, Option.bind_some, decide_eq_true_eq]

/-- A word and its gap are taken off the front; then the rest is read in the same way. -/
theorem plainWords?_of_isPlain {low n : Nat} {next : List Char} (hn : n < low)
    (hnext : BeginsWord next) (cs : List Char) :
    ∀ (fuel : Nat) (word : List Char) (p : Position) (column : Nat), (word ++ cs).length < fuel →
      word ++ cs ≠ [] → low ≤ column → p.IsAt column (word ++ (cs ++ nextLine n next)) →
      (∀ c ∈ word, isSpace c = false) → IsPlain (word ++ cs) →
      ∃ after, plainWords? false low fuel p = some ⟨word ++ cs, true, after⟩ ∧
        after.IsAt n next := by
  have hline : endsWord (nextLine n next) = true := rfl
  have hunbroken {word : List Char} (hword : ∀ c ∈ word, isSpace c = false) : IsUnbroken word :=
    fun c hc => isBreak_eq_false_of_isSpace (hword c hc)
  have hhash {cs : List Char} (hplain : IsPlain cs) (hne : cs ≠ []) :=
    hplain.head_ne_hash (nextLine n next) hne
  -- By runs of white space.  A word and the gap behind it are read in one step, so `word` holds
  -- what was passed since the last gap, and the position is still in front of it.
  induction cs using Text.runs_induction isSpace with
  | nil =>
      rintro (_ | fuel) word p column hfuel hne hlow hp hword hplain
      · exact absurd hfuel (Nat.not_lt_zero _)
      have hbehind := hp.skip (hunbroken hword)
      obtain ⟨after, hgap, hafter⟩ := hbehind.gap_of_nextLine hnext
      have htab : hasTabIndent low false (p.skip word.length).column (p.skip word.length).rest =
          false := by
        rw [hbehind.rest_eq]
        exact @hasTabIndent_append low ('\n' :: indentation n) _ (by simp [indentation]) hnext _ _
      refine ⟨after, ?_, hafter⟩
      rw [plainWords?_succ hp (by omega) (by simpa using hhash hplain hne)
        (word?_append hword rfl hline hplain.noMark) hgap rfl htab]
      simp [hafter.column_eq, hn, Gap.isBroken]
  | other c rest hc ih =>
      intro fuel word p column hfuel hne hlow hp hword hplain
      have hlonger : word ++ c :: rest = (word ++ [c]) ++ rest := List.append_cons word c rest
      rw [hlonger] at hfuel hne hplain ⊢
      rw [List.cons_append, List.append_cons] at hp
      refine ih fuel _ p column hfuel hne hlow hp ?_ hplain
      exact List.forall_mem_append.mpr ⟨hword, List.forall_mem_singleton.mpr hc⟩
  | run blanks rest hblanksNe hblanks hrest ih =>
      rintro (_ | fuel) word p column hfuel hne hlow hp hword hplain
      · exact absurd hfuel (Nat.not_lt_zero _)
      have hspaces : ∀ c ∈ blanks, c = ' ' := fun c hc =>
        hplain.spaces c (List.mem_append_right _ (List.mem_append_left _ hc)) (hblanks c hc)
      obtain ⟨hwordNe, hrestNe⟩ := hplain.ne_nil_of_gap hblanksNe hblanks
      have hbegins : BeginsWord (rest ++ nextLine n next) := BeginsWord.append hrest hrestNe _
      have hbehind := hp.skip (hunbroken hword)
      rw [List.append_assoc] at hbehind
      have hisBlank : ∀ c ∈ blanks, isBlank c = true := fun c hc => by rw [hspaces c hc]; rfl
      have hgap := hbehind.gap_of_blanks hisBlank hbegins
      have hafter := hbehind.skip fun c hc => isBreak_eq_false_of_isBlank (hisBlank c hc)
      have htab : hasTabIndent low false (p.skip word.length).column (p.skip word.length).rest =
          false := by
        rw [hbehind.rest_eq]
        exact hasTabIndent_append (fun c hc => by rw [hspaces c hc]; decide) hbegins _ _
      have hread := word?_append hword (by
        obtain ⟨c, blanks, rfl⟩ := List.exists_cons_of_ne_nil hblanksNe
        exact hblanks c List.mem_cons_self) hline hplain.noMark
      have hlength := List.length_pos_iff.mpr hwordNe
      obtain ⟨last, hmore, hlast⟩ := ih fuel [] _ _
        (by simp only [List.length_append, List.length_nil] at hfuel ⊢; omega) hrestNe
        (by omega) hafter (List.forall_mem_nil _) (hplain.of_append hblanksNe hblanks hrest)
      refine ⟨last, ?_, hlast⟩
      rw [plainWords?_succ hp (by omega) (by simpa using hhash hplain hne) hread hgap
        (by simp [Gap.isEmpty, hblanksNe]) htab]
      simp [hmore, hafter.column_eq, hrestNe, Gap.text, Gap.isBroken]
      omega

theorem plain?_of_isPlain {low n column : Nat} {cs next : List Char} {p : Position}
    (hp : p.IsAt column (cs ++ nextLine n next)) (hplain : IsPlain cs) (hne : cs ≠ [])
    (hlow : low ≤ column) (hn : n < low) (hnext : BeginsWord next) :
    ∃ after, plain? false low p = some ⟨cs, true, after⟩ ∧ after.IsAt n next := by
  have hfuel : cs.length < p.rest.length + 1 := by
    rw [hp.rest_eq, List.length_append]
    omega
  exact plainWords?_of_isPlain hn hnext cs _ [] p column hfuel hne hlow hp (List.forall_mem_nil _)
    hplain

/-! ## Names -/

/-- The name of an entry: a word of letters. -/
structure IsName (name : List Char) : Prop where
  ne_nil : name ≠ []
  letters : ∀ c ∈ name, c.isLower = true ∨ c = '_'

theorem IsName.of_all {name : List Char} (hne : name ≠ [])
    (hletters : name.all (fun c => c.isLower || c = '_') = true) : IsName name :=
  ⟨hne, fun c hc => by simpa using List.all_eq_true.mp hletters c hc⟩

theorem isSpace_eq_false_of_letter {c : Char} (h : c.isLower = true ∨ c = '_') :
    isSpace c = false := by
  rw [Bool.eq_false_iff]
  intro hspace
  simp only [isSpace, isBlank, isBreak, Bool.or_eq_true, decide_eq_true_eq] at hspace
  rcases hspace with (rfl | rfl) | (rfl | rfl) | rfl <;> revert h <;> decide

namespace IsName

variable {name : List Char}

theorem isUnbroken (h : IsName name) : IsUnbroken name := fun c hc =>
  isBreak_eq_false_of_isSpace (isSpace_eq_false_of_letter (h.letters c hc))

theorem word?_eq (h : IsName name) {rest : List Char} (hrest : endsWord rest = true) :
    word? false (name ++ ':' :: rest) = some name := by
  have hword : ∀ c ∈ name, isSpace c = false ∧ c ≠ ':' := fun c hc =>
    ⟨isSpace_eq_false_of_letter (h.letters c hc), by
      rintro rfl
      exact absurd (h.letters _ hc) (by decide)⟩
  clear h
  induction name with
  | nil => simp [word?, hrest, show isSpace ':' = false from rfl]
  | cons c name ih =>
      obtain ⟨⟨hc, hcolon⟩, hword⟩ := List.forall_mem_cons.mp hword
      rw [List.cons_append, word?_cons hc (by rw [decide_eq_false hcolon, Bool.false_and]),
        ih hword, Option.map_some]

/-- A name begins with no mark of any kind. -/
theorem exists_cons (h : IsName name) :
    ∃ c rest, name = c :: rest ∧ ∀ d, ¬(d.isLower = true ∨ d = '_') → c ≠ d := by
  obtain ⟨c, rest, rfl⟩ := List.exists_cons_of_ne_nil h.ne_nil
  refine ⟨c, rest, rfl, fun d hd heq => hd ?_⟩
  rw [← heq]
  exact h.letters c List.mem_cons_self

theorem startsPlain (h : IsName name) (rest : List Char) :
    Yaml.startsPlain false (name ++ rest) = true := by
  have hspace := isSpace_eq_false_of_letter (h.letters _ (List.head_mem h.ne_nil))
  obtain ⟨c, name, rfl, hne⟩ := h.exists_cons
  have hspace : isSpace c = false := hspace
  simp [Yaml.startsPlain, isFlowMark, isIndicator, hspace, hne]

theorem beginsWord (h : IsName name) (rest : List Char) : BeginsWord (name ++ rest) := by
  refine BeginsWord.append (fun c hc => ?_) h.ne_nil rest
  exact isSpace_eq_false_of_letter (h.letters c (List.mem_of_mem_head? hc))

theorem isDocumentMark_eq_false (h : IsName name) (rest : List Char) :
    isDocumentMark (name ++ rest) = false := by
  obtain ⟨c, name, rfl, hne⟩ := h.exists_cons
  simp [isDocumentMark, hne]

theorem plain?_eq (h : IsName name) {p : Position} {low column : Nat} {rest : List Char}
    (hp : p.IsAt column (name ++ ':' :: rest)) (hrest : endsWord rest = true) :
    plain? false low p = some ⟨name, false, p.skip name.length⟩ := by
  have hmark : p.isDocumentMark = false := by
    rw [Position.isDocumentMark, hp.rest_eq, h.isDocumentMark_eq_false, Bool.and_false]
  have hhash : (p.rest.head? == some '#') = false := by
    rw [hp.rest_eq]
    obtain ⟨c, name, rfl, hne⟩ := h.exists_cons
    simp [hne]
  have hgap : (p.skip name.length).gap.isEmpty = true :=
    (hp.skip h.isUnbroken).gap_of_beginsWord fun c hc => by
      obtain rfl := Option.some.inj hc
      rfl
  rw [plain?, plainWords?, hmark, hhash, hp.rest_eq, h.word?_eq hrest]
  simp [hgap]

end IsName

end JetStream.Yaml

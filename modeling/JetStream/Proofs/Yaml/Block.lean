import JetStream.Proofs.Yaml.Lines
import JetStream.Yaml.Block

/-!
# Block scalars read back

A text that is written as a literal block is read line by line.  Where it begins with white space
the header gives the indentation away; otherwise the first line does.  The mark in the header says
what becomes of the breaks behind the last line: all of them are dropped, kept, or there is one.
-/

namespace JetStream.Yaml

/-! ## The header -/

/-- The mark of a header. -/
def Chomping.mark : Chomping → List Char
  | strip => ['-']
  | clip => []
  | keep => ['+']

/-- How the breaks at the end of a text are kept. -/
def Chomping.ofText (cs : List Char) : Chomping :=
  if !endsLine cs then .strip
  else if cs.dropLast = [] || endsLine cs.dropLast then .keep
  else .clip

theorem mark_ofText (cs : List Char) : (Chomping.ofText cs).mark = chompingMark cs := by
  unfold Chomping.ofText chompingMark
  split
  · rfl
  · split <;> rfl

/-- The indentation that a header gives away. -/
def hintMark (isHinted : Bool) : List Char := if isHinted then ['2'] else []

theorem Header.read?_eq {p : Position} {column : Nat} {rest : List Char} (chomping : Chomping)
    (isHinted : Bool)
    (hp : p.IsAt column (hintMark isHinted ++ (chomping.mark ++ '\n' :: rest))) :
    ∃ after, Header.read? p = some ⟨chomping, if isHinted then some 2 else none, after⟩ ∧
      after.IsAt 0 rest := by
  obtain ⟨cs, line, column, index⟩ := p
  obtain rfl : cs = _ := hp.rest_eq
  cases isHinted <;> cases chomping <;>
    simp [Header.read?, chompingAt, Chomping.mark, hintMark, Chomping.ofChar?, indentAt?,
      Position.next, Position.endOfLine?, Position.skipWhile, Position.skip, isBlank, isBreak,
      Position.skipLine] <;>
    exact ⟨rfl, rfl⟩

/-! ## Empty lines -/

variable {indent n column : Nat} {breaks rest : List Char} {p : Position}

/-- A line is indented by so many columns, and its content begins there: in the column of the
block, or with a word before that. -/
def IsIndented (indent n : Nat) (rest : List Char) : Prop :=
  n = indent ∧ (∀ c ∈ rest.head?, isBreak c = false) ∨ n < indent ∧ BeginsWord rest

theorem takeWhile_space_indentation (n : Nat) (rest : List Char) :
    ((indentation n ++ rest).takeWhile (· = ' ')).length =
      n + (rest.takeWhile (· = ' ')).length := by
  have hspaces : ∀ c ∈ indentation n, decide (c = ' ') = true := fun c hc =>
    decide_eq_true (List.eq_of_mem_replicate hc)
  rw [List.takeWhile_append_of_pos hspaces, List.length_append, length_indentation]

/-- Spaces are skipped up to where the content of a line begins. -/
theorem min_spaces_of_isIndented (h : IsIndented indent n rest) :
    min ((indentation n ++ rest).takeWhile (· = ' ')).length indent = n := by
  rw [takeWhile_space_indentation]
  rcases h with ⟨rfl, -⟩ | ⟨hn, hrest⟩
  · exact Nat.min_eq_right (Nat.le_add_right _ _)
  · have hnone : rest.takeWhile (· = ' ') = [] := by
      cases rest with
      | nil => rfl
      | cons c rest =>
          have hc : c ≠ ' ' := by
            rintro rfl
            exact absurd (hrest ' ' rfl) (by decide)
          rw [List.takeWhile_cons, decide_eq_false hc, if_neg Bool.false_ne_true]
    rw [hnone, List.length_nil, Nat.add_zero]
    exact Nat.min_eq_left hn.le

theorem isUnbroken_indentation (n : Nat) : IsUnbroken (indentation n) := fun _ hc =>
  isBreak_eq_false_of_isBlank (isBlank_of_mem_indentation hc)

/-- The breaks of empty lines are kept, up to the content of the next line. -/
theorem emptyLinesFrom?_eq (hbreaks : ∀ c ∈ breaks, isBreak c = true)
    (hrest : IsIndented indent n rest) {fuel : Nat} (hfuel : breaks.length < fuel)
    (hp : p.IsAt 0 (breaks ++ (indentation n ++ rest))) :
    ∃ widest after, emptyLinesFrom? (some indent) fuel p = some ⟨breaks, widest, after⟩ ∧
      after.IsAt n rest := by
  induction breaks generalizing p fuel with
  | nil =>
      obtain _ | fuel := fuel
      · exact absurd hfuel (Nat.not_lt_zero _)
      have hp : p.IsAt 0 (indentation n ++ rest) := hp
      -- Spaces beyond the indentation are content and not skipped.
      have hskip : min (p.rest.takeWhile (· = ' ')).length (indent - p.column) =
          (indentation n).length := by
        rw [hp.column_eq, Nat.sub_zero, hp.rest_eq, min_spaces_of_isIndented hrest,
          length_indentation]
      have hafter := hp.skip (isUnbroken_indentation n)
      rw [length_indentation, Nat.zero_add] at hafter
      have hnoBreak : rest.head?.any isBreak = false := by
        cases rest with
        | nil => rfl
        | cons c rest =>
            rcases hrest with ⟨-, hc⟩ | ⟨-, hc⟩
            · exact hc c rfl
            · exact isBreak_eq_false_of_isSpace (hc c rfl)
      have hnoTab : ¬(rest.head? = some '\t' ∧ n < indent) := by
        rintro ⟨htab, hn⟩
        rcases hrest with ⟨rfl, -⟩ | ⟨-, hc⟩
        · exact Nat.lt_irrefl n hn
        · exact absurd (hc '\t' htab) (by decide)
      refine ⟨n, p.skip n, ?_, hafter⟩
      rw [emptyLinesFrom?]
      simp [hskip, length_indentation, hafter.rest_eq, hafter.column_eq, hnoBreak, hnoTab]
  | cons b breaks ih =>
      obtain _ | fuel := fuel
      · exact absurd hfuel (Nat.not_lt_zero _)
      obtain ⟨hb, hbreaks⟩ := List.forall_mem_cons.mp hbreaks
      have hspace : b ≠ ' ' ∧ b ≠ '\t' := by
        constructor <;> rintro rfl <;> exact absurd hb (by decide)
      obtain ⟨widest, after, hread, hafter⟩ :=
        ih hbreaks (Nat.lt_of_succ_lt_succ hfuel) (hp.next_line hb)
      refine ⟨max 0 widest, after, ?_, hafter⟩
      rw [emptyLinesFrom?]
      simp [hp.rest_eq, hp.column_eq, hspace, hb, Position.skip, hread]

theorem emptyLines?_eq (hbreaks : ∀ c ∈ breaks, isBreak c = true)
    (hrest : IsIndented indent n rest) (hp : p.IsAt 0 (breaks ++ (indentation n ++ rest))) :
    ∃ widest after, emptyLines? (some indent) p = some ⟨breaks, widest, after⟩ ∧
      after.IsAt n rest := by
  refine emptyLinesFrom?_eq hbreaks hrest ?_ hp
  rw [hp.rest_eq, List.length_append]
  omega

/-- The first line shows the indentation if it begins with a word. -/
theorem emptyLines?_none_eq (hne : rest ≠ []) (hrest : BeginsWord rest)
    (hp : p.IsAt 0 (indentation indent ++ rest)) :
    ∃ after, emptyLines? none p = some ⟨[], indent, after⟩ ∧ after.IsAt indent rest := by
  obtain ⟨c, rest, rfl⟩ := List.exists_cons_of_ne_nil hne
  have hc : isSpace c = false := hrest c rfl
  have hne (d : Char) (hd : isSpace d = true) : c ≠ d := by
    rintro rfl
    rw [hd] at hc
    cases hc
  have hafter := hp.skip (isUnbroken_indentation indent)
  rw [length_indentation, Nat.zero_add] at hafter
  refine ⟨p.skip indent, ?_, hafter⟩
  rw [emptyLines?, emptyLinesFrom?]
  simp [hp.rest_eq, takeWhile_space_indentation, hafter.rest_eq, hafter.column_eq, hne ' ' rfl,
    hne '\t' rfl, isBreak_eq_false_of_isSpace hc]

/-! ## Lines with content -/

theorem blockLines?_of_column_ne {isLiteral : Bool} {fuel : Nat} {lineEnd : LineEnd}
    (h : p.column ≠ indent) :
    blockLines? isLiteral indent fuel lineEnd p = some ([], lineEnd, p) := by
  cases fuel with
  | zero => rfl
  | succ fuel => rw [blockLines?, if_neg fun hand => h hand.1]

/-- One line of a literal text, with its break and the empty lines behind it. -/
theorem blockLines?_line (fuel : Nat) (lineEnd : LineEnd) {line : List Char} {b : Char}
    (hline : IsUnbroken line) (hb : isBreak b = true)
    (hbreaks : ∀ c ∈ breaks, isBreak c = true) (hrest : IsIndented indent n rest)
    (hp : p.IsAt indent (line ++ b :: (breaks ++ (indentation n ++ rest)))) :
    ∃ isIndented after, after.IsAt n rest ∧
      blockLines? true indent (fuel + 1) lineEnd p =
        (blockLines? true indent fuel ⟨[b], breaks, isIndented⟩ after).map
          fun (text, last, q) =>
            (lineEnd.lastBreak ++ lineEnd.empty ++ line ++ text, last, q) := by
  have hbehind := hp.skip hline
  obtain ⟨widest, after, hempty, hafter⟩ := emptyLines?_eq hbreaks hrest (hbehind.next_line hb)
  have hnotEnd : p.column = indent ∧ p.rest ≠ [] := by
    refine ⟨hp.column_eq, ?_⟩
    rw [hp.rest_eq]
    simp
  have htaken : p.rest.takeWhile (!isBreak ·) = line := by
    rw [hp.rest_eq]
    refine Text.takeWhile_append_eq_left (fun c hc => by rw [hline c hc]; rfl) fun c hc => ?_
    obtain rfl := Option.some.inj hc
    rw [hb, Bool.not_true]
  refine ⟨p.rest.head?.any isBlank, after, hafter, ?_⟩
  rw [blockLines?, if_pos hnotEnd, htaken]
  simp only [hempty, hbehind.rest_eq, LineEnd.text, Option.bind_eq_bind, Option.bind_some,
    Option.map_eq_bind, Function.comp_def, List.take_succ_cons, List.take_zero, Bool.not_true,
    Bool.false_and, Bool.false_eq_true, if_false]

/-- The last line, with its break and the empty lines between it and the next that is written. -/
theorem blockLines?_lastLine (fuel : Nat) (lineEnd : LineEnd) {line next : List Char} {b : Char}
    (hline : IsUnbroken line) (hb : isBreak b = true)
    (hbreaks : ∀ c ∈ breaks, isBreak c = true) (hn : n < indent) (hnext : BeginsWord next)
    (hp : p.IsAt indent (line ++ b :: (breaks ++ (indentation n ++ next)))) :
    ∃ isIndented after, after.IsAt n next ∧
      blockLines? true indent (fuel + 1) lineEnd p =
        some (lineEnd.lastBreak ++ lineEnd.empty ++ line, ⟨[b], breaks, isIndented⟩, after) := by
  obtain ⟨isIndented, after, hafter, hread⟩ :=
    blockLines?_line fuel lineEnd hline hb hbreaks (.inr ⟨hn, hnext⟩) hp
  have hended : after.column ≠ indent := by
    rw [hafter.column_eq]
    exact Nat.ne_of_lt hn
  rw [blockLines?_of_column_ne hended, Option.map_some] at hread
  dsimp only at hread
  rw [List.append_nil] at hread
  exact ⟨isIndented, after, hafter, hread⟩

/-- The last line of a text is always ended, by the text or by what holds it. -/
def closingBreak (cs : List Char) : List Char := if endsLine cs then [] else ['\n']

theorem closingBreak_append_of_ne_nil (front : List Char) (hne : rest ≠ []) :
    closingBreak (front ++ rest) = closingBreak rest := by
  rw [closingBreak, closingBreak, endsLine_append hne]

theorem closingBreak_of_breaks (hne : breaks ≠ []) (hbreaks : ∀ c ∈ breaks, isBreak c = true) :
    closingBreak breaks = [] := by
  rw [closingBreak, endsLine_of_breaks hne hbreaks, if_pos rfl]

/-- A text is read up to the end of its last line with content. -/
structure IsReadTo (cs text : List Char) (last : LineEnd) : Prop where
  lastBreak : ∃ b, last.lastBreak = [b] ∧ isBreak b = true
  empty : ∀ c ∈ last.empty, isBreak c = true
  text_eq : text ++ (last.lastBreak ++ last.empty) = cs

theorem closingBreak_append {front rest : List Char} (hfront : endsLine front = false) :
    closingBreak (front ++ rest) = closingBreak rest := by
  by_cases hrest : rest = []
  · rw [hrest, List.append_nil, closingBreak, hfront]
    rfl
  · exact closingBreak_append_of_ne_nil front hrest

/-- One line after the other, each with the empty lines behind it. -/
theorem blockLines?_indented {next : List Char} (hn : n < indent) (hnext : BeginsWord next)
    (cs : List Char) :
    ∀ (fuel : Nat) (line : List Char) (lineEnd : LineEnd) (p : Position),
      (line ++ cs).length < fuel → line ++ cs ≠ [] → IsUnbroken line →
      (∀ c ∈ (line ++ cs).head?, isBreak c = false) →
      p.IsAt indent (line ++ (indented indent ([·]) false cs ++
        (closingBreak cs ++ (indentation n ++ next)))) →
      ∃ text last after, blockLines? true indent fuel lineEnd p = some (text, last, after) ∧
        after.IsAt n next ∧
        IsReadTo (lineEnd.lastBreak ++ lineEnd.empty ++ (line ++ (cs ++ closingBreak cs)))
          text last := by
  -- By runs of breaks.  A line is read with all the breaks behind it in one step, so `line` holds
  -- what was passed of the line that has begun, and the position is still at its beginning.
  induction cs using Text.runs_induction isBreak with
  | nil =>
      rintro (_ | fuel) line lineEnd p hfuel hne hline hhead hp
      · exact absurd hfuel (Nat.not_lt_zero _)
      have hp : p.IsAt indent (line ++ '\n' :: ([] ++ (indentation n ++ next))) := hp
      obtain ⟨isIndented, after, hafter, hread⟩ :=
        blockLines?_lastLine fuel lineEnd hline rfl (List.forall_mem_nil _) hn hnext hp
      refine ⟨_, _, after, hread, hafter, ⟨'\n', rfl, rfl⟩, List.forall_mem_nil _, ?_⟩
      simp [closingBreak, endsLine]
  | other c rest hc ih =>
      intro fuel line lineEnd p hfuel hne hline hhead hp
      have hsingle : IsUnbroken [c] := List.forall_mem_singleton.mpr hc
      have hclosing : closingBreak (c :: rest) = closingBreak rest :=
        @closingBreak_append [c] rest (endsLine_of_isUnbroken hsingle)
      rw [indented_false_cons hc, hclosing, List.singleton_append, List.cons_append,
        List.append_cons] at hp
      rw [List.append_cons] at hfuel hne hhead
      rw [hclosing, List.cons_append, List.append_cons line c]
      exact ih fuel _ lineEnd p hfuel hne (List.forall_mem_append.mpr ⟨hline, hsingle⟩) hhead hp
  | run breaks rest hbreaksNe hbreaks hrest ih =>
      rintro (_ | fuel) line lineEnd p hfuel hne hline hhead hp
      · exact absurd hfuel (Nat.not_lt_zero _)
      rw [indented_breaks_append hbreaksNe hbreaks] at hp
      obtain ⟨b, more, rfl⟩ := List.exists_cons_of_ne_nil hbreaksNe
      obtain ⟨hb, hmore⟩ := List.forall_mem_cons.mp hbreaks
      by_cases hrestNe : rest = []
      · subst hrestNe
        rw [List.append_nil] at hp ⊢
        rw [closingBreak_of_breaks hbreaksNe hbreaks] at hp ⊢
        have hp : p.IsAt indent (line ++ b :: (more ++ (indentation n ++ next))) := by
          simpa [indented] using hp
        obtain ⟨isIndented, after, hafter, hread⟩ :=
          blockLines?_lastLine fuel lineEnd hline hb hmore hn hnext hp
        refine ⟨_, _, after, hread, hafter, ⟨b, rfl, hb⟩, hmore, ?_⟩
        simp
      · rw [closingBreak_append_of_ne_nil (b :: more) hrestNe] at hp ⊢
        rw [indented_true hrestNe hrest, List.append_assoc, List.cons_append,
          List.append_assoc] at hp
        have hcontent : IsIndented indent indent
            (indented indent ([·]) false rest ++
              (closingBreak rest ++ (indentation n ++ next))) := by
          obtain ⟨c, rest, rfl⟩ := List.exists_cons_of_ne_nil hrestNe
          refine .inl ⟨rfl, fun d hd => ?_⟩
          have hc : isBreak c = false := hrest c rfl
          rw [indented_false_cons hc] at hd
          obtain rfl := Option.some.inj hd
          exact hc
        obtain ⟨isIndented, after, hafter, hread⟩ :=
          blockLines?_line fuel lineEnd hline hb hmore hcontent hp
        have hshorter : rest.length < fuel := by
          simp only [List.length_append, List.length_cons] at hfuel
          omega
        obtain ⟨text, last, final, hrun, hfinal, hwhole⟩ := ih fuel [] ⟨[b], more, isIndented⟩ after
          hshorter hrestNe (List.forall_mem_nil _) hrest hafter
        rw [hrun, Option.map_some] at hread
        refine ⟨_, last, final, hread, hfinal, hwhole.lastBreak, hwhole.empty, ?_⟩
        rw [List.append_assoc, hwhole.text_eq]
        simp

/-! ## The end of a text -/

/-- A text that ends no line, or ends it once, has no empty lines at its end. -/
theorem IsReadTo.empty_eq_nil {cs text : List Char} {last : LineEnd} (h : IsReadTo cs text last)
    (hends : endsLine cs.dropLast = false) : last.empty = [] := by
  obtain ⟨b, hlast, hb⟩ := h.lastBreak
  rcases List.eq_nil_or_concat last.empty with hnil | ⟨more, c, hmore⟩
  · exact hnil
  · rw [List.concat_eq_append] at hmore
    have hbreaks : ∀ d ∈ b :: more, isBreak d = true := by
      refine List.forall_mem_cons.mpr ⟨hb, fun d hd => h.empty d ?_⟩
      rw [hmore]
      exact List.mem_append_left _ hd
    have hdropped : cs.dropLast = text ++ b :: more := by
      rw [← h.text_eq, hlast, hmore, ← List.append_assoc, ← List.append_assoc, List.dropLast_concat,
        List.append_assoc, List.singleton_append]
    rw [hdropped, endsLine_append (List.cons_ne_nil b more),
      endsLine_of_breaks (List.cons_ne_nil b more) hbreaks] at hends
    cases hends

/-- The mark of a text gives its last breaks back. -/
theorem IsReadTo.append_chomping {cs text : List Char} {last : LineEnd}
    (h : IsReadTo (cs ++ closingBreak cs) text last) :
    text ++ (Chomping.ofText cs).text last = cs := by
  have htext := h.text_eq
  unfold Chomping.ofText
  cases hends : endsLine cs with
  | false =>
      obtain ⟨b, hlast, -⟩ := h.lastBreak
      have hclosing : closingBreak cs = ['\n'] := by rw [closingBreak, hends]; rfl
      rw [hclosing] at h htext
      rw [h.empty_eq_nil (by rwa [List.dropLast_concat]), hlast] at htext
      exact (List.append_nil text).trans (List.append_inj_left' htext rfl)
  | true =>
      have hclosing : closingBreak cs = [] := by rw [closingBreak, hends]; rfl
      rw [hclosing, List.append_nil] at h htext
      rw [Bool.not_true, if_neg Bool.false_ne_true]
      split
      · exact htext
      · rename_i hmark
        have hdropped : endsLine cs.dropLast = false :=
          (Bool.or_eq_false_iff.mp (Bool.eq_false_iff.mpr hmark)).2
        rwa [h.empty_eq_nil hdropped, List.append_nil] at htext

/-- Of a text of line breaks alone all are kept. -/
theorem ofText_of_breaks (hne : breaks ≠ []) (hbreaks : ∀ c ∈ breaks, isBreak c = true) :
    Chomping.ofText breaks = .keep := by
  have hdropped : (breaks.dropLast = [] || endsLine breaks.dropLast) = true := by
    by_cases hdropLast : breaks.dropLast = []
    · rw [decide_eq_true hdropLast, Bool.true_or]
    · rw [endsLine_of_breaks hdropLast fun c hc =>
        hbreaks c ((List.dropLast_sublist breaks).subset hc),
        Bool.or_true]
  rw [Chomping.ofText, endsLine_of_breaks hne hbreaks, hdropped]
  rfl

/-! ## Literal blocks -/

/-- The columns that a header gives away, where content is indented by at least `low`. -/
def fixedIndent (low : Nat) (isHinted : Bool) : Option Nat :=
  (if isHinted then some 2 else none).map (low - 1 + ·)

/-- The empty lines at the front end where the indentation is found, be it known or not. -/
theorem emptyLines?_literal {low : Nat} {front body tail : List Char} (hlow : 0 < low)
    (hfront : ∀ c ∈ front, isBreak c = true) (hne : body ≠ [])
    (hbody : ∀ c ∈ body.head?, isBreak c = false)
    (hp : p.IsAt 0 (indented (low + 1) ([·]) true (front ++ body) ++ tail)) :
    let fixed := fixedIndent low ((front ++ body).head?.any isSpace)
    ∃ widest first, emptyLines? fixed p = some ⟨front, widest, first⟩ ∧
      fixed.getD (max widest (max low 1)) = low + 1 ∧
      first.IsAt (low + 1) (indented (low + 1) ([·]) false body ++ tail) := by
  intro fixed
  have hwritten : indented (low + 1) ([·]) true (front ++ body) ++ tail =
      front ++ (indentation (low + 1) ++ (indented (low + 1) ([·]) false body ++ tail)) := by
    cases front with
    | nil => rw [List.nil_append, indented_true hne hbody, List.append_assoc]; rfl
    | cons b front =>
        rw [indented_breaks_append (List.cons_ne_nil b front) hfront, indented_true hne hbody,
          List.append_assoc, List.append_assoc]
  rw [hwritten] at hp
  obtain ⟨c, body, rfl⟩ := List.exists_cons_of_ne_nil hne
  have hc : isBreak c = false := hbody c rfl
  rw [indented_false_cons hc] at hp ⊢
  cases hhinted : (front ++ c :: body).head?.any isSpace with
  | true =>
      have hfixed : fixed = some (low + 1) := by
        simp only [fixed, hhinted, fixedIndent, if_true, Option.map_some]
        exact congrArg some (by omega)
      have hcontent : IsIndented (low + 1) (low + 1)
          ([c] ++ indented (low + 1) ([·]) false body ++ tail) :=
        .inl ⟨rfl, fun d hd => by obtain rfl := Option.some.inj hd; exact hc⟩
      obtain ⟨widest, first, hread, hfirst⟩ := emptyLines?_eq hfront hcontent hp
      exact ⟨widest, first, by rw [hfixed, hread], by rw [hfixed]; rfl, hfirst⟩
  | false =>
      have hfixed : fixed = none := by
        simp only [fixed, hhinted, fixedIndent, Bool.false_eq_true, if_false, Option.map_none]
      cases front with
      | nil =>
          have hspace : isSpace c = false := hhinted
          obtain ⟨first, hread, hfirst⟩ := emptyLines?_none_eq (List.cons_ne_nil c _)
            (fun d hd => by obtain rfl := Option.some.inj hd; exact hspace) hp
          refine ⟨low + 1, first, by rw [hfixed, hread], ?_, hfirst⟩
          rw [hfixed]
          simp only [Option.getD_none]
          omega
      | cons b front =>
          have hspace : isSpace b = false := hhinted
          have hb := isSpace_of_isBreak (hfront b List.mem_cons_self)
          rw [hspace] at hb
          cases hb

/-- A text of line breaks alone is a block of empty lines. -/
theorem blockScalar?_breaks {low : Nat} {next : List Char} {start : Position}
    (hbreaks : ∀ c ∈ breaks, isBreak c = true) (hlow : 0 < low) (hn : n < low)
    (hnext : BeginsWord next)
    (hheader : Header.read? p = some ⟨.keep, some 2, start⟩)
    (hstart : start.IsAt 0 (breaks ++ (indentation n ++ next))) :
    ∃ after, blockScalar? true low p = some (breaks, after) ∧ after.IsAt n next := by
  obtain ⟨widest, after, hempty, hafter⟩ :=
    @emptyLines?_eq (low + 1) n breaks next start hbreaks (.inr ⟨by omega, hnext⟩) hstart
  have hended : after.column ≠ low + 1 := by
    rw [hafter.column_eq]
    omega
  have hindent : low - 1 + 2 = low + 1 := by omega
  refine ⟨after, ?_, hafter⟩
  rw [blockScalar?, hheader]
  simp [hindent, hempty, blockLines?_of_column_ne hended, Chomping.text]

/-- A text with a line of content is read from that line on. -/
theorem blockScalar?_lines {low : Nat} {front body next : List Char} {start : Position}
    (hfront : ∀ c ∈ front, isBreak c = true) (hne : body ≠ [])
    (hbody : ∀ c ∈ body.head?, isBreak c = false) (hlow : 0 < low) (hn : n < low)
    (hnext : BeginsWord next) (hfuel : body.length ≤ p.rest.length)
    (hheader : Header.read? p = some ⟨.ofText (front ++ body),
      if (front ++ body).head?.any isSpace then some 2 else none, start⟩)
    (hstart : start.IsAt 0 (indented (low + 1) ([·]) true (front ++ body) ++
      (closingBreak body ++ (indentation n ++ next)))) :
    ∃ after, blockScalar? true low p = some (front ++ body, after) ∧ after.IsAt n next := by
  obtain ⟨widest, first, hempty, hindent, hfirst⟩ :=
    emptyLines?_literal hlow hfront hne hbody hstart
  obtain ⟨text, last, after, hlines, hafter, hread⟩ :=
    blockLines?_indented (by omega) hnext body (p.rest.length + 1) [] ⟨[], front, false⟩ first
      (Nat.lt_succ_of_le hfuel) hne (List.forall_mem_nil _) hbody hfirst
  have hread : IsReadTo (front ++ body ++ closingBreak (front ++ body)) text last := by
    rw [closingBreak_append_of_ne_nil front hne]
    simpa only [List.nil_append, List.append_assoc] using hread
  refine ⟨after, ?_, hafter⟩
  rw [blockScalar?, hheader]
  rw [fixedIndent] at hempty hindent
  simp only [Option.bind_eq_bind, Option.bind_some, hempty, hindent, hlines,
    hread.append_chomping]

/-- A text is what its literal block says, up to the line behind it. -/
theorem blockScalar?_literal {low column : Nat} {cs next : List Char} (hne : cs ≠ [])
    (hlow : 0 < low) (hn : n < low) (hnext : BeginsWord next)
    (hp : p.IsAt column (hintMark (cs.head?.any isSpace) ++ (chompingMark cs ++
      '\n' :: (indented (low + 1) ([·]) true cs ++
        (closingBreak cs ++ (indentation n ++ next)))))) :
    ∃ after, blockScalar? true low p = some (cs, after) ∧ after.IsAt n next := by
  rw [← mark_ofText] at hp
  obtain ⟨start, hheader, hstart⟩ := Header.read?_eq _ _ hp
  have hfront : ∀ c ∈ cs.takeWhile isBreak, isBreak c = true := fun c hc =>
    List.mem_takeWhile_imp hc
  have hbody := Text.head?_dropWhile_eq_false isBreak cs
  have hcs := @List.takeWhile_append_dropWhile _ isBreak cs
  generalize cs.takeWhile isBreak = front at hfront hcs
  generalize cs.dropWhile isBreak = body at hbody hcs
  -- Without a line of content nothing shows the indentation; then the header gives it away, as the
  -- text begins with a break.
  by_cases hbodyNe : body = []
  · obtain rfl : front = cs := by rw [← hcs, hbodyNe, List.append_nil]
    have hhinted : front.head?.any isSpace = true := by
      obtain ⟨b, front, rfl⟩ := List.exists_cons_of_ne_nil hne
      exact isSpace_of_isBreak (hfront b List.mem_cons_self)
    have hwritten : indented (low + 1) ([·]) true front = front := by
      have happend := @indented_breaks_append (low + 1) ([·]) _ [] hne hfront true
      rwa [List.append_nil, indented, List.append_nil] at happend
    rw [hwritten, closingBreak_of_breaks hne hfront, List.nil_append] at hstart
    rw [hhinted, ofText_of_breaks hne hfront] at hheader
    exact blockScalar?_breaks hfront hlow hn hnext hheader hstart
  · subst hcs
    have hfuel : body.length ≤ p.rest.length := by
      have hwritten := @length_le_indented (low + 1) ([·]) (fun _ => Nat.le_refl 1) true
        (front ++ body)
      rw [hp.rest_eq]
      simp only [List.length_append, List.length_cons] at hwritten ⊢
      omega
    rw [closingBreak_append_of_ne_nil front hbodyNe] at hstart
    exact blockScalar?_lines hfront hbodyNe hbody hlow hn hnext hfuel hheader hstart

end JetStream.Yaml

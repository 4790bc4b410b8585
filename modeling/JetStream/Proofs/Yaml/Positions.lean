import JetStream.Proofs.Text.Runs
import JetStream.Yaml.Position
import JetStream.Yaml.Printer

/-!
# Positions over known text

Where a position comes to when the text in front of it is known: words move it along its line, and a
line break takes it to the beginning of another.  Of a position that is not in front of a name no
more has to be known than its column and the text that stands there.
-/

namespace JetStream.Yaml

/-! ## Characters -/

/-- No line break is among the characters. -/
def IsUnbroken (cs : List Char) : Prop := ∀ c ∈ cs, isBreak c = false

/-- The text begins with no white space, if it goes on at all. -/
def BeginsWord (cs : List Char) : Prop := ∀ c ∈ cs.head?, isSpace c = false

/-- A line ends, and the text goes on in a column of the next one. -/
def nextLine (column : Nat) (next : List Char) : List Char := '\n' :: (indentation column ++ next)

theorem isSpace_of_isBlank {c : Char} (h : isBlank c = true) : isSpace c = true := by
  rw [isSpace, h, Bool.true_or]

theorem isSpace_of_isBreak {c : Char} (h : isBreak c = true) : isSpace c = true := by
  rw [isSpace, h, Bool.or_true]

theorem isBreak_eq_false_of_isBlank {c : Char} (h : isBlank c = true) : isBreak c = false := by
  simp only [isBlank, Bool.or_eq_true, decide_eq_true_eq] at h
  rcases h with rfl | rfl <;> decide

theorem isBlank_eq_false_of_isBreak {c : Char} (h : isBreak c = true) : isBlank c = false := by
  rw [Bool.eq_false_iff]
  intro hblank
  rw [isBreak_eq_false_of_isBlank hblank] at h
  cases h

theorem isBreak_eq_false_of_isSpace {c : Char} (h : isSpace c = false) : isBreak c = false :=
  (Bool.or_eq_false_iff.mp h).2

theorem isBlank_eq_false_of_isSpace {c : Char} (h : isSpace c = false) : isBlank c = false :=
  (Bool.or_eq_false_iff.mp h).1

theorem BeginsWord.append {cs : List Char} (h : BeginsWord cs) (hne : cs ≠ []) (rest : List Char) :
    BeginsWord (cs ++ rest) := by
  cases cs with
  | nil => exact absurd rfl hne
  | cons c cs => exact h

theorem isBlank_of_mem_indentation {indent : Nat} {c : Char} (h : c ∈ indentation indent) :
    isBlank c = true := by
  rw [List.eq_of_mem_replicate h]
  rfl

theorem length_indentation (indent : Nat) : (indentation indent).length = indent :=
  List.length_replicate

namespace Position

/-- A text stands there, in a column. -/
structure IsAt (p : Position) (column : Nat) (rest : List Char) : Prop where
  rest_eq : p.rest = rest
  column_eq : p.column = column

variable {p : Position} {c : Char} {column : Nat} {rest word : List Char}

/-! ## Characters passed -/

theorem next_of_not_isBreak (h : p.rest = c :: rest) (hc : isBreak c = false) :
    p.next = ⟨rest, p.line, p.column + 1, p.index + 1⟩ := by
  rw [next, h]
  simp only [hc, Bool.false_eq_true, if_false]

theorem skip_add (m n : Nat) : p.skip (m + n) = (p.skip m).skip n := by
  induction m generalizing p with
  | zero => rw [Nat.zero_add, skip]
  | succ m ih => rw [Nat.succ_add, skip, ih, ← skip]

theorem skip_of_isUnbroken (h : p.rest = word ++ rest) (hword : IsUnbroken word) :
    p.skip word.length = ⟨rest, p.line, p.column + word.length, p.index + word.length⟩ := by
  induction word generalizing p with
  | nil =>
      obtain ⟨cs, line, column, index⟩ := p
      obtain rfl : cs = rest := h
      rfl
  | cons c word ih =>
      obtain ⟨hc, hword⟩ := List.forall_mem_cons.mp hword
      rw [List.length_cons, skip, next_of_not_isBreak h hc, ih rfl hword]
      simp only [Nat.add_assoc, Nat.add_comm 1]

namespace IsAt

theorem next (h : p.IsAt column (c :: rest)) (hc : isBreak c = false) :
    p.next.IsAt (column + 1) rest := by
  rw [next_of_not_isBreak h.rest_eq hc, ← h.column_eq]
  exact ⟨rfl, rfl⟩

theorem next_line (h : p.IsAt column (c :: rest)) (hc : isBreak c = true) :
    p.next.IsAt 0 rest := by
  rw [Position.next, h.rest_eq]
  simp only [hc, if_true]
  exact ⟨rfl, rfl⟩

theorem skip (h : p.IsAt column (word ++ rest)) (hword : IsUnbroken word) :
    (p.skip word.length).IsAt (column + word.length) rest := by
  rw [skip_of_isUnbroken h.rest_eq hword, ← h.column_eq]
  exact ⟨rfl, rfl⟩

theorem skip_lines {breaks : List Char} (h : p.IsAt column (breaks ++ rest))
    (hne : breaks ≠ []) (hbreaks : ∀ c ∈ breaks, isBreak c = true) :
    (p.skip breaks.length).IsAt 0 rest := by
  induction breaks generalizing p column with
  | nil => exact absurd rfl hne
  | cons c breaks ih =>
      obtain ⟨hc, hbreaks⟩ := List.forall_mem_cons.mp hbreaks
      have hnext := h.next_line hc
      cases breaks with
      | nil => exact hnext
      | cons d breaks => exact ih hnext (List.cons_ne_nil d breaks) hbreaks

theorem isDocumentMark_eq_false (h : p.IsAt column rest) (hcolumn : 0 < column) :
    p.isDocumentMark = false := by
  rw [Position.isDocumentMark, h.column_eq, beq_false_of_ne (Nat.ne_of_gt hcolumn), Bool.false_and]

/-! ## Gaps -/

theorem gap_of_beginsWord (h : p.IsAt column rest) (hrest : BeginsWord rest) :
    p.gap.isEmpty = true := by
  have hrun : p.rest.takeWhile isSpace = [] := by
    rw [h.rest_eq]
    cases rest with
    | nil => rfl
    | cons c rest => rw [List.takeWhile_cons, hrest c rfl, if_neg Bool.false_ne_true]
  rw [gap, hrun]
  rfl

/-- Between words of one line the blanks stay. -/
theorem gap_of_blanks {blanks : List Char} (h : p.IsAt column (blanks ++ rest))
    (hblanks : ∀ c ∈ blanks, isBlank c = true) (hrest : BeginsWord rest) :
    p.gap = ⟨blanks, [], p.skip blanks.length⟩ := by
  have hspaces : ∀ c ∈ blanks, isSpace c = true := fun c hc => isSpace_of_isBlank (hblanks c hc)
  have hunbroken : ∀ c ∈ blanks, ¬isBreak c = true := fun c hc =>
    Bool.eq_false_iff.mp (isBreak_eq_false_of_isBlank (hblanks c hc))
  have hrun : p.rest.takeWhile isSpace = blanks := by
    rw [h.rest_eq, Text.takeWhile_append_eq_left hspaces hrest]
  rw [gap, hrun, List.takeWhile_eq_self_iff.mpr hblanks, List.filter_eq_nil_iff.mpr hunbroken]

/-- Of the white space around line breaks only the breaks stay. -/
theorem gap_of_breaks {breaks blanks : List Char} (h : p.IsAt column (breaks ++ blanks ++ rest))
    (hne : breaks ≠ []) (hbreaks : ∀ c ∈ breaks, isBreak c = true)
    (hblanks : ∀ c ∈ blanks, isBlank c = true) (hrest : BeginsWord rest) :
    ∃ after, p.gap = ⟨[], breaks, after⟩ ∧ after.IsAt blanks.length rest := by
  have hspaces : ∀ c ∈ breaks ++ blanks, isSpace c = true :=
    List.forall_mem_append.mpr
      ⟨fun c hc => isSpace_of_isBreak (hbreaks c hc), fun c hc => isSpace_of_isBlank (hblanks c hc)⟩
  have hrun : p.rest.takeWhile isSpace = breaks ++ blanks := by
    rw [h.rest_eq, Text.takeWhile_append_eq_left hspaces hrest]
  have hnone : (breaks ++ blanks).takeWhile isBlank = [] := by
    cases breaks with
    | nil => exact absurd rfl hne
    | cons c breaks =>
        have hc := isBlank_eq_false_of_isBreak (hbreaks c List.mem_cons_self)
        rw [List.cons_append, List.takeWhile_cons, hc, if_neg Bool.false_ne_true]
  have hkept : (breaks ++ blanks).filter isBreak = breaks := by
    have hdropped : ∀ c ∈ blanks, ¬isBreak c = true := fun c hc =>
      Bool.eq_false_iff.mp (isBreak_eq_false_of_isBlank (hblanks c hc))
    rw [List.filter_append, List.filter_eq_self.mpr hbreaks, List.filter_eq_nil_iff.mpr hdropped,
      List.append_nil]
  refine ⟨p.skip (breaks ++ blanks).length, by rw [gap, hrun, hnone, hkept], ?_⟩
  rw [List.append_assoc] at h
  rw [List.length_append, skip_add]
  have hblanksUnbroken : IsUnbroken blanks := fun c hc =>
    isBreak_eq_false_of_isBlank (hblanks c hc)
  simpa only [Nat.zero_add] using (h.skip_lines hne hbreaks).skip hblanksUnbroken

theorem gap_of_nextLine {n : Nat} (h : p.IsAt column (nextLine n rest)) (hrest : BeginsWord rest) :
    ∃ after, p.gap = ⟨[], ['\n'], after⟩ ∧ after.IsAt n rest := by
  have hbreak : ∀ c ∈ ['\n'], isBreak c = true := by simp [isBreak]
  have hgap := @gap_of_breaks p column rest ['\n'] (indentation n) h (List.cons_ne_nil _ _) hbreak
    (fun _ => isBlank_of_mem_indentation) hrest
  rwa [length_indentation] at hgap

end IsAt

end Position

end JetStream.Yaml

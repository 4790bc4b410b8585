import JetStream.Proofs.Yaml.Positions

/-!
# Lines as they are written

Behind line breaks each line with content is written with an indentation in front.  Where a text
ends a line, and where spaces touch its breaks, is known from its parts.
-/

namespace JetStream.Yaml

variable {indent : Nat} {write : Char → List Char} {line breaks front rest : List Char}

theorem indented_false_cons {c : Char} (hc : isBreak c = false) :
    indented indent write false (c :: rest) = write c ++ indented indent write false rest := by
  rw [indented, hc, if_neg Bool.false_ne_true, if_neg Bool.false_ne_true, List.nil_append]

theorem indented_false_append (hline : IsUnbroken line) :
    indented indent write false (line ++ rest) =
      line.flatMap write ++ indented indent write false rest := by
  induction line with
  | nil => rfl
  | cons c line ih =>
      obtain ⟨hc, hline⟩ := List.forall_mem_cons.mp hline
      rw [List.cons_append, indented_false_cons hc, ih hline, List.flatMap_cons, List.append_assoc]

theorem indented_breaks_append (hne : breaks ≠ []) (hbreaks : ∀ c ∈ breaks, isBreak c = true)
    (isBehindBreak : Bool) :
    indented indent write isBehindBreak (breaks ++ rest) =
      breaks ++ indented indent write true rest := by
  induction breaks generalizing isBehindBreak with
  | nil => exact absurd rfl hne
  | cons c breaks ih =>
      obtain ⟨hc, hbreaks⟩ := List.forall_mem_cons.mp hbreaks
      rw [List.cons_append, indented, if_pos hc]
      cases breaks with
      | nil => rfl
      | cons d breaks => rw [ih (List.cons_ne_nil d breaks) hbreaks]; rfl

/-- The first line behind a break gets the indentation. -/
theorem indented_true (hne : rest ≠ []) (hrest : ∀ c ∈ rest.head?, isBreak c = false) :
    indented indent write true rest = indentation indent ++ indented indent write false rest := by
  obtain ⟨c, rest, rfl⟩ := List.exists_cons_of_ne_nil hne
  have hc : isBreak c = false := hrest c rfl
  rw [indented_false_cons hc, indented, hc, if_neg Bool.false_ne_true, if_pos rfl,
    List.append_assoc]

theorem length_le_indented (hwrite : ∀ c, 1 ≤ (write c).length) (isBehindBreak : Bool)
    (cs : List Char) : cs.length ≤ (indented indent write isBehindBreak cs).length := by
  induction cs generalizing isBehindBreak with
  | nil => exact Nat.zero_le _
  | cons c cs ih =>
      have hc := hwrite c
      rw [indented]
      split
      · have hcs := ih true
        simp only [List.length_cons]
        omega
      · have hcs := ih false
        simp only [List.length_cons, List.length_append]
        omega

/-- What holds of a space and of all that is written for the characters holds of the lines. -/
theorem forall_mem_indented {P : Char → Prop} (hspace : P ' ') {cs : List Char}
    (hcs : ∀ c ∈ cs, P c ∧ ∀ d ∈ write c, P d) (isBehindBreak : Bool) :
    ∀ c ∈ indented indent write isBehindBreak cs, P c := by
  have hindentation : ∀ c ∈ indentation indent, P c := fun c hc => by
    rwa [List.eq_of_mem_replicate hc]
  induction cs generalizing isBehindBreak with
  | nil => exact List.forall_mem_nil _
  | cons c cs ih =>
      obtain ⟨⟨hc, hwritten⟩, hcs⟩ := List.forall_mem_cons.mp hcs
      rw [indented]
      split
      · exact List.forall_mem_cons.mpr ⟨hc, ih hcs true⟩
      · refine List.forall_mem_append.mpr ⟨List.forall_mem_append.mpr ⟨?_, hwritten⟩, ih hcs false⟩
        split
        · exact hindentation
        · exact List.forall_mem_nil _

/-! ## Ends of lines -/

theorem endsLine_append (hne : rest ≠ []) : endsLine (front ++ rest) = endsLine rest := by
  rw [endsLine, endsLine, List.getLast?_append, List.getLast?_eq_some_getLast hne, Option.some_or]

theorem endsLine_of_isUnbroken (hline : IsUnbroken line) : endsLine line = false := by
  rw [endsLine]
  cases hlast : line.getLast? with
  | none => rfl
  | some c => exact hline c (List.mem_of_getLast? hlast)

theorem endsLine_of_breaks (hne : breaks ≠ []) (hbreaks : ∀ c ∈ breaks, isBreak c = true) :
    endsLine breaks = true := by
  rw [endsLine, List.getLast?_eq_some_getLast hne]
  exact hbreaks _ (List.getLast_mem hne)

theorem getLast?_indented (isBehindBreak : Bool) (cs : List Char) :
    (indented indent ([·]) isBehindBreak cs).getLast? = cs.getLast? := by
  induction cs generalizing isBehindBreak with
  | nil => rfl
  | cons c cs ih =>
      rw [indented]
      split
      · rw [List.getLast?_cons, List.getLast?_cons, ih]
      · rw [List.append_assoc, List.getLast?_append, List.singleton_append, List.getLast?_cons, ih,
          List.getLast?_cons, Option.some_or]

/-! ## Spaces at breaks -/

theorem hasSpaceBeforeBreak_of_append (h : hasSpaceBeforeBreak (front ++ rest) = false) :
    hasSpaceBeforeBreak rest = false := by
  induction front with
  | nil => exact h
  | cons c front ih => exact ih (Bool.or_eq_false_iff.mp h).2

theorem hasSpaceAfterBreak_of_append (h : hasSpaceAfterBreak (front ++ rest) = false) :
    hasSpaceAfterBreak rest = false := by
  induction front with
  | nil => exact h
  | cons c front ih => exact ih (Bool.or_eq_false_iff.mp h).2

theorem hasSpaceBeforeBreak_of_isUnbroken (hline : IsUnbroken line) :
    hasSpaceBeforeBreak line = false := by
  induction line with
  | nil => rfl
  | cons c line ih =>
      obtain ⟨-, hline⟩ := List.forall_mem_cons.mp hline
      rw [hasSpaceBeforeBreak, ih hline, Bool.or_false]
      cases line with
      | nil => exact Bool.and_false _
      | cons d line =>
          rw [List.head?_cons, Option.any_some, hline d List.mem_cons_self, Bool.and_false]

theorem hasSpaceAfterBreak_of_isUnbroken (hline : IsUnbroken line) :
    hasSpaceAfterBreak line = false := by
  induction line with
  | nil => rfl
  | cons c line ih =>
      obtain ⟨hc, hline⟩ := List.forall_mem_cons.mp hline
      rw [hasSpaceAfterBreak, ih hline, hc, Bool.false_and, Bool.or_false]

/-- White space without spaces at breaks is of one kind. -/
theorem blanks_or_breaks (hfront : ∀ c ∈ front, c = ' ' ∨ isBreak c = true)
    (hbefore : hasSpaceBeforeBreak (front ++ rest) = false)
    (hafter : hasSpaceAfterBreak (front ++ rest) = false) :
    (∀ c ∈ front, c = ' ') ∨ ∀ c ∈ front, isBreak c = true := by
  induction front with
  | nil => exact .inl (List.forall_mem_nil _)
  | cons c front ih =>
      obtain ⟨hc, hfront⟩ := List.forall_mem_cons.mp hfront
      obtain ⟨hcBefore, hbefore⟩ := Bool.or_eq_false_iff.mp hbefore
      obtain ⟨hcAfter, hafter⟩ := Bool.or_eq_false_iff.mp hafter
      have hmore := ih hfront hbefore hafter
      cases front with
      | nil =>
          exact hc.imp List.forall_mem_singleton.mpr List.forall_mem_singleton.mpr
      | cons d front =>
          have hd := hfront d List.mem_cons_self
          rcases hc with rfl | hc
          · have hdBreak : isBreak d = false := by simpa using hcBefore
            refine .inl (List.forall_mem_cons.mpr ⟨rfl, hmore.resolve_right fun hbreaks => ?_⟩)
            rw [hbreaks d List.mem_cons_self] at hdBreak
            cases hdBreak
          · have hdSpace : d ≠ ' ' := by simpa [hc] using hcAfter
            exact .inr (List.forall_mem_cons.mpr
              ⟨hc, hmore.resolve_left fun hblanks => hdSpace (hblanks d List.mem_cons_self)⟩)

end JetStream.Yaml

import JetStream.Text.Pattern

/-!
# What a pattern stands for

A search tries the ways in which a pattern can be at the front of a text.  `Fits` says which texts a
pattern stands for, without any order, and `mem_fronts_iff` that a search tries just these: so the
search of a whole text finds out whether the pattern stands for it.  The order counts only where a
search takes what it finds first (`scan_of_head?`).
-/

namespace JetStream.Text.Pattern

/-- The pattern stands for the text. -/
inductive Fits : Pattern → List Char → Prop
  | nothing : Fits nothing []
  | one {accepts : Char → Bool} {c : Char} (h : accepts c = true) : Fits (one accepts) [c]
  | sequence {p q : Pattern} {front more : List Char} (hp : Fits p front) (hq : Fits q more) :
      Fits (sequence p q) (front ++ more)
  | first {p q : Pattern} {cs : List Char} (h : Fits p cs) : Fits (either p q) cs
  | second {p q : Pattern} {cs : List Char} (h : Fits q cs) : Fits (either p q) cs
  | stop {p : Pattern} : Fits (anyTimes p) []
  | again {p : Pattern} {front more : List Char} (hp : Fits p front) (hne : front ≠ [])
      (hmore : Fits (anyTimes p) more) : Fits (anyTimes p) (front ++ more)

variable {p q : Pattern} {cs front rest : List Char}

/-! ## The texts of each pattern -/

theorem fits_nothing_iff : Fits nothing cs ↔ cs = [] := by
  constructor
  · rintro ⟨⟩
    rfl
  · rintro rfl
    exact .nothing

theorem fits_one_iff {accepts : Char → Bool} :
    Fits (one accepts) cs ↔ ∃ c, accepts c = true ∧ cs = [c] := by
  constructor
  · rintro ⟨⟩
    exact ⟨_, ‹_›, rfl⟩
  · rintro ⟨c, hc, rfl⟩
    exact .one hc

theorem fits_sequence_iff :
    Fits (sequence p q) cs ↔ ∃ front more, Fits p front ∧ Fits q more ∧ front ++ more = cs := by
  constructor
  · rintro ⟨⟩
    exact ⟨_, _, ‹_›, ‹_›, rfl⟩
  · rintro ⟨front, more, hp, hq, rfl⟩
    exact .sequence hp hq

theorem fits_either_iff : Fits (either p q) cs ↔ Fits p cs ∨ Fits q cs := by
  constructor
  · rintro ⟨⟩
    · exact .inl ‹_›
    · exact .inr ‹_›
  · rintro (h | h)
    · exact .first h
    · exact .second h

theorem fits_anyTimes_iff :
    Fits (anyTimes p) cs ↔
      cs = [] ∨ ∃ front more, Fits p front ∧ front ≠ [] ∧ Fits (anyTimes p) more ∧
        front ++ more = cs := by
  constructor
  · rintro ⟨⟩
    · exact .inl rfl
    · exact .inr ⟨_, _, ‹_›, ‹_›, ‹_›, rfl⟩
  · rintro (rfl | ⟨front, more, hp, hne, hmore, rfl⟩)
    · exact .stop
    · exact .again hp hne hmore

theorem fits_ifThere_iff : Fits (ifThere p) cs ↔ Fits p cs ∨ cs = [] := by
  rw [ifThere, fits_either_iff, fits_nothing_iff]

theorem fits_anyTimes_one_iff {accepts : Char → Bool} :
    Fits (anyTimes (one accepts)) cs ↔ ∀ c ∈ cs, accepts c = true := by
  induction cs with
  | nil => exact ⟨fun _ _ hc => (nomatch hc), fun _ => .stop⟩
  | cons c cs ih =>
      rw [List.forall_mem_cons, ← ih, fits_anyTimes_iff]
      constructor
      · rintro (h | ⟨front, more, hfront, -, hmore, heq⟩)
        · exact nomatch h
        · obtain ⟨c', hc', rfl⟩ := fits_one_iff.mp hfront
          obtain ⟨rfl, rfl⟩ := List.cons.inj heq
          exact ⟨hc', hmore⟩
      · rintro ⟨hc, hmore⟩
        exact .inr ⟨[c], cs, .one hc, List.cons_ne_nil c [], hmore, rfl⟩

theorem fits_atLeastOnce_one_iff {accepts : Char → Bool} :
    Fits (atLeastOnce (one accepts)) cs ↔ cs ≠ [] ∧ ∀ c ∈ cs, accepts c = true := by
  rw [atLeastOnce, fits_sequence_iff]
  constructor
  · rintro ⟨front, more, hfront, hmore, rfl⟩
    obtain ⟨c, hc, rfl⟩ := fits_one_iff.mp hfront
    exact ⟨List.cons_ne_nil c more, List.forall_mem_cons.mpr ⟨hc, fits_anyTimes_one_iff.mp hmore⟩⟩
  · rintro ⟨hne, hall⟩
    cases cs with
    | nil => exact absurd rfl hne
    | cons c cs =>
        obtain ⟨hc, hcs⟩ := List.forall_mem_cons.mp hall
        exact ⟨[c], cs, .one hc, fits_anyTimes_one_iff.mpr hcs, rfl⟩

theorem fits_word_iff {w : List Char} : Fits (word w) cs ↔ cs = w := by
  induction w generalizing cs with
  | nil => exact fits_nothing_iff
  | cons c w ih =>
      rw [word, fits_sequence_iff]
      constructor
      · rintro ⟨front, more, hfront, hmore, rfl⟩
        obtain ⟨c', hc', rfl⟩ := fits_one_iff.mp hfront
        rw [ih.mp hmore, of_decide_eq_true hc']
        rfl
      · rintro rfl
        exact ⟨[c], w, .one (decide_eq_true rfl), ih.mpr rfl, rfl⟩

theorem fits_anyOf_iff {words : List String} :
    Fits (anyOf words) cs ↔ ∃ w ∈ words, cs = w.toList := by
  induction words with
  | nil =>
      rw [anyOf, fits_one_iff]
      simp
  | cons w words ih =>
      rw [anyOf, fits_either_iff, fits_word_iff, ih]
      simp

/-! ## What a search tries -/

/-- Where each text is no longer than the number of repetitions, none is missed. -/
theorem mem_repeated_iff
    (hp : ∀ cs front rest, (front, rest) ∈ p.fronts cs ↔ Fits p front ∧ front ++ rest = cs)
    {n : Nat} (hn : cs.length ≤ n) :
    (front, rest) ∈ repeated p.fronts n cs ↔ Fits (anyTimes p) front ∧ front ++ rest = cs := by
  induction n generalizing cs front with
  | zero =>
      obtain rfl := List.length_eq_zero_iff.mp (Nat.le_zero.mp hn)
      simp only [repeated, List.mem_singleton, Prod.mk.injEq, List.append_eq_nil_iff]
      constructor
      · rintro ⟨rfl, rfl⟩
        exact ⟨.stop, rfl, rfl⟩
      · rintro ⟨-, rfl, rfl⟩
        exact ⟨rfl, rfl⟩
  | succ n ih =>
      simp only [repeated, List.mem_append, List.mem_flatMap, List.mem_singleton, Prod.mk.injEq,
        Prod.exists, hp]
      rw [fits_anyTimes_iff]
      constructor
      · rintro (⟨found, left, ⟨hfound, rfl⟩, hmem⟩ | ⟨rfl, rfl⟩)
        · split at hmem
          next => exact nomatch hmem
          next hne =>
            rw [List.isEmpty_iff] at hne
            obtain ⟨⟨more, rest'⟩, hmore, heq⟩ := List.mem_map.mp hmem
            cases heq
            have hleft : left.length ≤ n := by
              have := List.length_pos_iff.mpr hne
              rw [List.length_append] at hn
              omega
            obtain ⟨hfits, rfl⟩ := (ih hleft).mp hmore
            exact ⟨.inr ⟨found, more, hfound, hne, hfits, rfl⟩, List.append_assoc _ _ _⟩
        · exact ⟨.inl rfl, rfl⟩
      · rintro ⟨rfl | ⟨found, more, hfound, hne, hmore, rfl⟩, rfl⟩
        · exact .inr ⟨rfl, rfl⟩
        · refine .inl ⟨found, more ++ rest, ⟨hfound, (List.append_assoc _ _ _).symm⟩, ?_⟩
          have hleft : (more ++ rest).length ≤ n := by
            have := List.length_pos_iff.mpr hne
            simp only [List.length_append] at hn ⊢
            omega
          rw [if_neg (by rwa [List.isEmpty_iff])]
          exact List.mem_map.mpr ⟨(more, rest), (ih hleft).mpr ⟨hmore, rfl⟩, rfl⟩

/-- A search tries all fronts that the pattern stands for, and nothing else. -/
theorem mem_fronts_iff : (front, rest) ∈ p.fronts cs ↔ Fits p front ∧ front ++ rest = cs := by
  induction p generalizing cs front rest with
  | nothing =>
      rw [fits_nothing_iff, fronts, List.mem_singleton, Prod.mk.injEq]
      constructor
      · rintro ⟨rfl, rfl⟩
        exact ⟨rfl, rfl⟩
      · rintro ⟨rfl, rfl⟩
        exact ⟨rfl, rfl⟩
  | one accepts =>
      rw [fits_one_iff]
      cases cs with
      | nil =>
          rw [fronts]
          constructor
          · intro h
            exact nomatch h
          · rintro ⟨⟨c, -, rfl⟩, heq⟩
            exact nomatch heq
      | cons c cs =>
          rw [fronts]
          constructor
          · intro h
            split at h
            next hc =>
              cases List.mem_singleton.mp h
              exact ⟨⟨c, hc, rfl⟩, rfl⟩
            next => exact nomatch h
          · rintro ⟨⟨c', hc', rfl⟩, heq⟩
            obtain ⟨rfl, rfl⟩ := List.cons.inj heq
            rw [if_pos hc']
            exact List.mem_singleton_self _
  | sequence p q ihp ihq =>
      simp only [fronts, List.mem_flatMap, List.mem_map, Prod.exists, Prod.mk.injEq, ihp, ihq]
      rw [fits_sequence_iff]
      constructor
      · rintro ⟨found, left, ⟨hfound, rfl⟩, more, rest', ⟨hmore, rfl⟩, rfl, rfl⟩
        exact ⟨⟨found, more, hfound, hmore, rfl⟩, List.append_assoc _ _ _⟩
      · rintro ⟨⟨found, more, hfound, hmore, rfl⟩, rfl⟩
        exact ⟨found, more ++ rest, ⟨hfound, (List.append_assoc _ _ _).symm⟩, more, rest,
          ⟨hmore, rfl⟩, rfl, rfl⟩
  | either p q ihp ihq =>
      rw [fronts, List.mem_append, ihp, ihq, fits_either_iff, or_and_right]
  | anyTimes p ih => exact mem_repeated_iff (fun _ _ _ => ih) (Nat.le_refl _)

theorem isWhole_iff : p.isWhole cs = true ↔ Fits p cs := by
  simp only [isWhole, List.any_eq_true, Prod.exists, mem_fronts_iff, List.isEmpty_iff]
  constructor
  · rintro ⟨front, rest, ⟨hfront, rfl⟩, rfl⟩
    rwa [List.append_nil]
  · intro h
    exact ⟨cs, [], ⟨h, List.append_nil cs⟩, rfl⟩

theorem mem_pairs_iff {first second : List Char} :
    ((first, second), rest) ∈ pairs p q cs ↔
      Fits p first ∧ Fits q second ∧ first ++ (second ++ rest) = cs := by
  simp only [pairs, List.mem_flatMap, List.mem_map, Prod.exists, Prod.mk.injEq, mem_fronts_iff]
  constructor
  · rintro ⟨found, left, ⟨hfound, rfl⟩, more, rest', ⟨hmore, rfl⟩, ⟨rfl, rfl⟩, rfl⟩
    exact ⟨hfound, hmore, rfl⟩
  · rintro ⟨hfirst, hsecond, rfl⟩
    exact ⟨first, second ++ rest, ⟨hfirst, rfl⟩, second, rest, ⟨hsecond, rfl⟩, ⟨rfl, rfl⟩, rfl⟩

theorem fits_of_wholePair? {first second : List Char}
    (h : wholePair? p q cs = some (first, second)) :
    Fits p first ∧ Fits q second ∧ first ++ second = cs := by
  obtain ⟨⟨pair, rest⟩, hfind, rfl⟩ := Option.map_eq_some_iff.mp h
  obtain ⟨hfirst, hsecond, heq⟩ := mem_pairs_iff.mp (List.mem_of_find?_eq_some hfind)
  have hwhole := List.find?_some hfind
  have hrest : rest = [] := List.isEmpty_iff.mp hwhole
  rw [hrest, List.append_nil] at heq
  exact ⟨hfirst, hsecond, heq⟩

theorem wholePair?_eq_none_iff :
    wholePair? p q cs = none ↔
      ∀ first second, Fits p first → Fits q second → first ++ second ≠ cs := by
  rw [wholePair?, Option.map_eq_none_iff, List.find?_eq_none]
  constructor
  · rintro h first second hfirst hsecond rfl
    have hmem : ((first, second), []) ∈ pairs p q (first ++ second) :=
      mem_pairs_iff.mpr ⟨hfirst, hsecond, by rw [List.append_nil]⟩
    exact h _ hmem rfl
  · rintro h ⟨⟨first, second⟩, rest⟩ hmem hrest
    obtain ⟨hfirst, hsecond, heq⟩ := mem_pairs_iff.mp hmem
    rw [List.isEmpty_iff.mp hrest, List.append_nil] at heq
    exact h first second hfirst hsecond heq

/-! ## Going through a text -/

theorem scanAfter_eq_scan_drop (n : Nat) (cs : List Char) :
    scanAfter p q n cs = scan p q (cs.drop n) := by
  induction n generalizing cs with
  | zero => rfl
  | succ n ih =>
      cases cs with
      | nil => simp [scan, scanAfter]
      | cons c cs => exact ih cs

/-- What is found first at the front is taken down, and the search goes on after it. -/
theorem scan_of_head? {first second : List Char}
    (h : (pairs p q cs).head? = some ((first, second), rest)) (hne : first ++ second ≠ []) :
    scan p q cs = (first, second) :: scan p q rest := by
  obtain ⟨-, -, heq⟩ := mem_pairs_iff.mp (List.mem_of_head? h)
  rw [← List.append_assoc] at heq
  cases cs with
  | nil => exact absurd (List.append_eq_nil_iff.mp heq).1 hne
  | cons c cs =>
      have hscan : scan p q (c :: cs) =
          (first, second) :: scanAfter p q (first.length + second.length - 1) cs := by
        rw [scan, scanAfter, h]
      have hpositive := List.length_pos_iff.mpr hne
      rw [List.length_append] at hpositive
      have hdrop : cs.drop (first.length + second.length - 1) = rest := by
        calc cs.drop (first.length + second.length - 1)
            = (c :: cs).drop (first.length + second.length - 1 + 1) := rfl
          _ = (first ++ second ++ rest).drop (first ++ second).length := by
              rw [heq, List.length_append, Nat.sub_add_cancel hpositive]
          _ = rest := List.drop_left
      rw [hscan, scanAfter_eq_scan_drop, hdrop]

/-- If only one front of the first pattern is followed by the second, what is found first is that
front with what the second search finds first. -/
theorem head?_pairs {first second left : List Char} (hfirst : Fits p first)
    (hcs : first ++ left = cs)
    (honly : ∀ found second' rest', Fits p found → Fits q second' →
      found ++ (second' ++ rest') = cs → found = first)
    (hhead : (q.fronts left).head? = some (second, rest)) :
    (pairs p q cs).head? = some ((first, second), rest) := by
  have hsame : ∀ found ∈ p.fronts cs, q.fronts found.2 ≠ [] → found = (first, left) := by
    rintro ⟨found, after⟩ hfound hne
    obtain ⟨⟨second', rest'⟩, hsecond'⟩ := List.exists_mem_of_ne_nil _ hne
    obtain ⟨hfits, heq⟩ := mem_fronts_iff.mp hfound
    obtain ⟨hfits', heq'⟩ := mem_fronts_iff.mp hsecond'
    obtain rfl := honly found second' rest' hfits hfits' (by rw [heq', heq])
    rw [List.append_cancel_left (heq.trans hcs.symm)]
  rw [pairs, List.head?_flatMap]
  generalize hsearch : List.findSome? _ (p.fronts cs) = outcome
  cases outcome with
  | none =>
      have hnone := List.findSome?_eq_none_iff.mp hsearch (first, left)
        (mem_fronts_iff.mpr ⟨hfirst, hcs⟩)
      rw [List.head?_map, hhead] at hnone
      exact nomatch hnone
  | some pair =>
      obtain ⟨found, hfound, hpair⟩ := List.exists_of_findSome?_eq_some hsearch
      rw [List.head?_map] at hpair
      have hne : q.fronts found.2 ≠ [] := by
        intro hnil
        rw [hnil] at hpair
        exact nomatch hpair
      rw [hsame found hfound hne, hhead] at hpair
      exact hpair.symm

/-! ## The first word -/

theorem fronts_word (w cs : List Char) :
    (word w).fronts cs = if w.isPrefixOf cs then [(w, cs.drop w.length)] else [] := by
  induction w generalizing cs with
  | nil => rfl
  | cons c w ih =>
      cases cs with
      | nil => rfl
      | cons c' cs =>
          rw [word, fronts, fronts, List.isPrefixOf_cons_cons]
          by_cases hc : c' = c
          · subst hc
            simp only [decide_true, if_true, List.flatMap_singleton, ih, BEq.rfl, Bool.true_and]
            split
            next => rfl
            next => rfl
          · have hne : (c == c') = false := beq_false_of_ne (Ne.symm hc)
            simp [hc, hne]

/-- Of some words, the first in their order that is there is found first. -/
theorem head?_fronts_anyOf (words : List String) (cs : List Char) :
    ((anyOf words).fronts cs).head? =
      (words.find? fun w => w.toList.isPrefixOf cs).map fun w =>
        (w.toList, cs.drop w.toList.length) := by
  induction words with
  | nil =>
      cases cs with
      | nil => rfl
      | cons c cs => rfl
  | cons w words ih =>
      rw [anyOf, fronts, List.head?_append, ih, fronts_word, List.find?_cons]
      cases w.toList.isPrefixOf cs with
      | true => rfl
      | false => rfl

end JetStream.Text.Pattern

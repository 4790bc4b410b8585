import JetStream.Proofs.Yaml.Lines
import JetStream.Yaml.Quoted
import Mathlib.Algebra.Group.Nat.Defs

/-!
# Quoted scalars read back

A text in quotes is read up to the closing quote as the text it was written for.  White space is
taken a run at a time: spaces stay, and breaks that were written with an indentation behind them
lose it again.
-/

namespace JetStream.Yaml

open Text

/-! ## Escapes -/

private theorem hexValue?_upperHexDigit : ∀ n < 16, Json.hexValue? (upperHexDigit n) = some n := by
  decide

theorem length_hexPlaces (places n : Nat) : (hexPlaces places n).length = places := by
  induction places generalizing n with
  | zero => rfl
  | succ places ih => rw [hexPlaces, List.length_append, ih, List.length_singleton]

/-- What holds of the digits holds of every character of a number in hexadecimal. -/
theorem forall_mem_hexPlaces {P : Char → Prop} (hdigit : ∀ m < 16, P (upperHexDigit m))
    (places n : Nat) : ∀ c ∈ hexPlaces places n, P c := by
  induction places generalizing n with
  | zero => exact List.forall_mem_nil _
  | succ places ih =>
      exact List.forall_mem_append.mpr
        ⟨ih _, List.forall_mem_singleton.mpr (hdigit _ (Nat.mod_lt n (by decide)))⟩

theorem foldlM_hexPlaces {places n : Nat} (h : n < 16 ^ places) :
    (hexPlaces places n).foldlM (fun m c => (Json.hexValue? c).map (m * 16 + ·)) 0 = some n := by
  induction places generalizing n with
  | zero =>
      obtain rfl : n = 0 := by simpa using h
      rfl
  | succ places ih =>
      have hhigh : n / 16 < 16 ^ places := Nat.div_lt_of_lt_mul (by rwa [Nat.pow_succ'] at h)
      have hlow := hexValue?_upperHexDigit (n % 16) (Nat.mod_lt n (by decide))
      rw [hexPlaces, List.foldlM_append, ih hhigh]
      simp [hlow, Nat.div_add_mod']

/-- The code points that are characters. -/
theorem toNat_valid (c : Char) : c.toNat < 0xd800 ∨ 0xdfff < c.toNat ∧ c.toNat < 0x110000 :=
  c.valid

theorem charOf?_toNat (c : Char) : charOf? c.toNat = some c := by
  rw [charOf?, if_pos (toNat_valid c), Char.ofNat_toNat]

theorem hexEscape?_hexPlaces {c : Char} {places : Nat} (h : c.toNat < 16 ^ places) :
    hexEscape? places (hexPlaces places c.toNat) = some c := by
  rw [hexEscape?, if_pos (length_hexPlaces _ _), foldlM_hexPlaces h, Option.bind_some,
    charOf?_toNat]

/-- The short escapes are read back. -/
theorem shortEscapeOf?_spec {c e : Char} (h : shortEscapeOf? c = some e) :
    isBreak e = false ∧ hexPlaces? e = none ∧ shortEscape? e = some c := by
  unfold shortEscapeOf? at h
  split at h <;> cases h <;> decide

/-- What has no short escape is neither white space nor a mark inside of double quotes, unless it is
a space. -/
theorem not_isSpace_of_shortEscapeOf?_eq_none {c : Char} (h : shortEscapeOf? c = none)
    (hspace : c ≠ ' ') : isSpace c = false ∧ c ≠ '"' ∧ c ≠ '\\' := by
  have hne (d : Char) (hd : shortEscapeOf? d ≠ none) : c ≠ d := by
    rintro rfl
    exact hd h
  have htab := hne '\t' (by decide)
  have hfeed := hne '\n' (by decide)
  have hline := hne '\u2028' (by decide)
  have hparagraph := hne '\u2029' (by decide)
  exact ⟨by simp [isSpace, isBlank, isBreak, *], hne '"' (by decide), hne '\\' (by decide)⟩

/-- An escape for a character, in front of which a backslash stands. -/
def IsEscape (c : Char) (written : List Char) : Prop :=
  ∀ (p : Position) (column : Nat) (rest : List Char), p.IsAt column (written ++ rest) →
    ∃ after, escape? p = some ([c], after) ∧ after.IsAt (column + written.length) rest

theorem isEscape_short {c e : Char} (h : shortEscapeOf? c = some e) : IsEscape c [e] := by
  obtain ⟨hbreak, hplaces, hshort⟩ := shortEscapeOf?_spec h
  intro p column rest hp
  refine ⟨p.next, ?_, hp.next hbreak⟩
  rw [escape?, hp.rest_eq]
  simp [hbreak, hplaces, hshort]

theorem isUnbroken_hexPlaces (places n : Nat) : IsUnbroken (hexPlaces places n) :=
  forall_mem_hexPlaces (by decide) places n

theorem isEscape_hexPlaces {c letter : Char} {places : Nat} (hletter : isBreak letter = false)
    (hplaces : hexPlaces? letter = some places) (h : c.toNat < 16 ^ places) :
    IsEscape c (letter :: hexPlaces places c.toNat) := by
  intro p column rest hp
  have hdigits := hp.next hletter
  have htaken : p.next.rest.take places = hexPlaces places c.toNat := by
    rw [hdigits.rest_eq]
    exact List.take_left' (length_hexPlaces places c.toNat)
  have hafter := hdigits.skip (isUnbroken_hexPlaces places c.toNat)
  rw [length_hexPlaces] at hafter
  refine ⟨p.next.skip places, ?_, ?_⟩
  · rw [escape?, hp.rest_eq]
    simp [hletter, hplaces, htaken, hexEscape?_hexPlaces h]
  · rw [List.length_cons, length_hexPlaces, Nat.add_comm places 1, ← Nat.add_assoc]
    exact hafter

/-- A character stands in double quotes as it is, or as an escape. -/
theorem doubleQuotedChar_cases (c : Char) :
    doubleQuotedChar c = [c] ∧ shortEscapeOf? c = none ∨
      ∃ written, doubleQuotedChar c = '\\' :: written ∧ IsEscape c written := by
  unfold doubleQuotedChar
  cases hshort : shortEscapeOf? c with
  | some e => exact .inr ⟨[e], rfl, isEscape_short hshort⟩
  | none =>
      have hvalid := toNat_valid c
      dsimp only
      split
      · exact .inl ⟨rfl, rfl⟩
      · split
        · exact .inr ⟨_, rfl, isEscape_hexPlaces rfl rfl (by omega)⟩
        · split
          · exact .inr ⟨_, rfl, isEscape_hexPlaces rfl rfl (by omega)⟩
          · exact .inr ⟨_, rfl, isEscape_hexPlaces rfl rfl (by omega)⟩

/-! ## Double quotes -/

theorem flatMap_eq_self {write : Char → List Char} {cs : List Char}
    (h : ∀ c ∈ cs, write c = [c]) : cs.flatMap write = cs := by
  induction cs with
  | nil => rfl
  | cons c cs ih =>
      obtain ⟨hc, hcs⟩ := List.forall_mem_cons.mp h
      rw [List.flatMap_cons, hc, ih hcs, List.singleton_append]

theorem beginsWord_doubleQuoted {cs rest : List Char} (hcs : ∀ c ∈ cs.head?, c ≠ ' ') :
    BeginsWord (cs.flatMap doubleQuotedChar ++ '"' :: rest) := by
  intro d hd
  cases cs with
  | nil =>
      obtain rfl := Option.some.inj hd
      rfl
  | cons c cs =>
      rw [List.flatMap_cons] at hd
      rcases doubleQuotedChar_cases c with ⟨hwritten, hshort⟩ | ⟨written, hwritten, -⟩
      · rw [hwritten] at hd
        obtain rfl := Option.some.inj hd
        exact (not_isSpace_of_shortEscapeOf?_eq_none hshort (hcs _ rfl)).1
      · rw [hwritten] at hd
        obtain rfl := Option.some.inj hd
        rfl

theorem doubleQuotedFrom?_char {fuel column : Nat} {p : Position} {c : Char} {rest : List Char}
    (hp : p.IsAt column (doubleQuotedChar c ++ rest)) (hcolumn : 0 < column) (hc : c ≠ ' ') :
    ∃ behind column', doubleQuotedFrom? (fuel + 1) p =
        (doubleQuotedFrom? fuel behind).map (fun (text, after) => (c :: text, after)) ∧
      behind.IsAt column' rest ∧ 0 < column' := by
  have hmark := hp.isDocumentMark_eq_false hcolumn
  rcases doubleQuotedChar_cases c with ⟨hwritten, hshort⟩ | ⟨written, hwritten, hescape⟩
  · obtain ⟨hspace, hquote, hslash⟩ := not_isSpace_of_shortEscapeOf?_eq_none hshort hc
    rw [hwritten] at hp
    refine ⟨p.next, column + 1, ?_, hp.next (isBreak_eq_false_of_isSpace hspace), Nat.succ_pos _⟩
    rw [doubleQuotedFrom?, hp.rest_eq]
    simp [hmark, hspace, hquote, hslash]
  · rw [hwritten] at hp
    obtain ⟨behind, hread, hbehind⟩ := hescape _ _ _ (hp.next rfl)
    refine ⟨behind, _, ?_, hbehind, Nat.add_pos_left (Nat.succ_pos _) _⟩
    rw [doubleQuotedFrom?, hp.rest_eq]
    cases hmore : doubleQuotedFrom? fuel behind <;>
      simp [hmark, show isSpace '\\' = false from rfl, hread, hmore]

theorem doubleQuotedFrom?_blanks {fuel column : Nat} {p : Position} {blanks rest : List Char}
    (hp : p.IsAt column (blanks ++ rest)) (hcolumn : 0 < column) (hne : blanks ≠ [])
    (hblanks : ∀ c ∈ blanks, isBlank c = true) (hrest : BeginsWord rest) :
    doubleQuotedFrom? (fuel + 1) p =
      (doubleQuotedFrom? fuel (p.skip blanks.length)).map fun (text, after) =>
        (blanks ++ text, after) := by
  have hgap := hp.gap_of_blanks hblanks hrest
  have hmark := hp.isDocumentMark_eq_false hcolumn
  obtain ⟨c, blanks, rfl⟩ := List.exists_cons_of_ne_nil hne
  have hspace := isSpace_of_isBlank (hblanks c List.mem_cons_self)
  rw [doubleQuotedFrom?, hp.rest_eq]
  simp [hmark, hspace, hgap, Gap.text, Gap.isBroken]

/-- Text in double quotes stands on one line. -/
theorem doubleQuotedFrom?_flatMap {rest : List Char} (cs : List Char) :
    ∀ (fuel : Nat) (p : Position) (column : Nat), cs.length < fuel → 0 < column →
      p.IsAt column (cs.flatMap doubleQuotedChar ++ '"' :: rest) →
      ∃ after behind, doubleQuotedFrom? fuel p = some (cs, after) ∧ after.IsAt behind rest := by
  -- By runs of spaces, as these are taken at once and any other character is on its own.
  induction cs using Text.runs_induction (· = ' ') with
  | nil =>
      rintro (_ | fuel) p column hfuel hcolumn hp
      · exact absurd hfuel (Nat.not_lt_zero _)
      have hp : p.IsAt column ('"' :: rest) := hp
      refine ⟨p.next, column + 1, ?_, hp.next rfl⟩
      rw [doubleQuotedFrom?, hp.rest_eq]
      simp [hp.isDocumentMark_eq_false hcolumn, show isSpace '"' = false from rfl]
  | other c cs hc ih =>
      rintro (_ | fuel) p column hfuel hcolumn hp
      · exact absurd hfuel (Nat.not_lt_zero _)
      rw [List.flatMap_cons, List.append_assoc] at hp
      obtain ⟨mid, column', hstep, hmid, hcolumn'⟩ :=
        doubleQuotedFrom?_char hp hcolumn (of_decide_eq_false hc)
      obtain ⟨after, behind, hread, hafter⟩ :=
        ih fuel mid column' (Nat.lt_of_succ_lt_succ hfuel) hcolumn' hmid
      exact ⟨after, behind, by rw [hstep, hread, Option.map_some], hafter⟩
  | run blanks cs hne hblanks hcs ih =>
      rintro (_ | fuel) p column hfuel hcolumn hp
      · exact absurd hfuel (Nat.not_lt_zero _)
      have hspaces : ∀ c ∈ blanks, c = ' ' := fun c hc => of_decide_eq_true (hblanks c hc)
      have hisBlank : ∀ c ∈ blanks, isBlank c = true := fun c hc => by rw [hspaces c hc]; rfl
      have hasItIs : blanks.flatMap doubleQuotedChar = blanks :=
        flatMap_eq_self fun c hc => by rw [hspaces c hc]; decide
      have hbegins : BeginsWord (cs.flatMap doubleQuotedChar ++ '"' :: rest) :=
        beginsWord_doubleQuoted fun c hc => of_decide_eq_false (hcs c hc)
      rw [List.flatMap_append, hasItIs, List.append_assoc] at hp
      have hbehind := hp.skip fun c hc => isBreak_eq_false_of_isBlank (hisBlank c hc)
      have hlength := List.length_pos_iff.mpr hne
      rw [List.length_append] at hfuel
      obtain ⟨after, behind, hread, hafter⟩ := ih fuel _ _ (by omega) (by omega) hbehind
      refine ⟨after, behind, ?_, hafter⟩
      rw [doubleQuotedFrom?_blanks hp hcolumn hne hisBlank hbegins, hread, Option.map_some]

theorem length_le_doubleQuoted (cs : List Char) :
    cs.length ≤ (cs.flatMap doubleQuotedChar).length := by
  induction cs with
  | nil => exact Nat.le_refl 0
  | cons c cs ih =>
      have hc : 1 ≤ (doubleQuotedChar c).length := by
        rcases doubleQuotedChar_cases c with ⟨hwritten, -⟩ | ⟨written, hwritten, -⟩ <;>
          rw [hwritten] <;> exact Nat.succ_pos _
      rw [List.flatMap_cons, List.length_append, List.length_cons]
      omega

theorem doubleQuoted?_eq {cs rest : List Char} {p : Position} {column : Nat} (hcolumn : 0 < column)
    (hp : p.IsAt column (cs.flatMap doubleQuotedChar ++ '"' :: rest)) :
    ∃ after behind, doubleQuoted? p = some (cs, after) ∧ after.IsAt behind rest := by
  refine doubleQuotedFrom?_flatMap cs _ p column ?_ hcolumn hp
  have hlength := length_le_doubleQuoted cs
  rw [hp.rest_eq, List.length_append]
  omega

/-! ## Single quotes -/

/-- A text behind the opening quote. -/
def singleBody (indent : Nat) (cs : List Char) : List Char :=
  indented indent singleQuotedChar false cs ++
    ((if endsLine cs then indentation indent else []) ++ ['\x27'])

/-- Line breaks that are kept in single quotes: they are no line feeds, and no spaces touch them. -/
structure IsFoldable (cs : List Char) : Prop where
  spaces : ∀ c ∈ cs, isSpace c = true → c = ' ' ∨ isBreak c = true
  noFeed : '\n' ∉ cs
  before : hasSpaceBeforeBreak cs = false
  after : hasSpaceAfterBreak cs = false

theorem IsFoldable.of_append {front rest : List Char} (h : IsFoldable (front ++ rest)) :
    IsFoldable rest where
  spaces c hc := h.spaces c (List.mem_append_right _ hc)
  noFeed hfeed := h.noFeed (List.mem_append_right _ hfeed)
  before := hasSpaceBeforeBreak_of_append h.before
  after := hasSpaceAfterBreak_of_append h.after

variable {indent : Nat} {line breaks rest : List Char}

theorem singleBody_append (hline : IsUnbroken line) :
    singleBody indent (line ++ rest) = line.flatMap singleQuotedChar ++ singleBody indent rest := by
  have hends : endsLine (line ++ rest) = endsLine rest := by
    by_cases hrest : rest = []
    · rw [hrest, List.append_nil, endsLine_of_isUnbroken hline]
      rfl
    · exact endsLine_append hrest
  rw [singleBody, singleBody, indented_false_append hline, hends, List.append_assoc]

/-- Behind line breaks stands an indentation, even in front of the closing quote. -/
theorem singleBody_breaks_append (hne : breaks ≠ []) (hbreaks : ∀ c ∈ breaks, isBreak c = true)
    (hrest : BeginsWord rest) :
    singleBody indent (breaks ++ rest) =
      breaks ++ indentation indent ++ singleBody indent rest := by
  rw [singleBody, indented_breaks_append hne hbreaks]
  by_cases hrestNe : rest = []
  · have hends : endsLine [] = false := rfl
    rw [hrestNe, List.append_nil, endsLine_of_breaks hne hbreaks, singleBody, hends]
    simp [indented]
  · rw [endsLine_append hrestNe, indented_true hrestNe fun c hc =>
      isBreak_eq_false_of_isSpace (hrest c hc), singleBody]
    simp only [List.append_assoc]

theorem foldedBreaks_of_not_mem (h : '\n' ∉ breaks) : foldedBreaks breaks = breaks := by
  unfold foldedBreaks
  split <;> simp_all

theorem beginsWord_singleBody (hrest : BeginsWord rest) (tail : List Char) :
    BeginsWord (singleBody indent rest ++ tail) := by
  cases rest with
  | nil => exact fun c hc => by obtain rfl := Option.some.inj hc; rfl
  | cons c rest =>
      have hc : isSpace c = false := hrest c rfl
      have hline : IsUnbroken [c] := List.forall_mem_singleton.mpr (isBreak_eq_false_of_isSpace hc)
      rw [← List.singleton_append, singleBody_append hline, List.flatMap_singleton]
      intro d hd
      unfold singleQuotedChar at hd
      split at hd <;> obtain rfl := Option.some.inj hd
      · rfl
      · exact hc

/-- White space at the front is taken at once. -/
theorem singleQuotedFrom?_gap {fuel column : Nat} {p : Position} {gap : Gap} {c : Char}
    (hp : p.IsAt column (c :: rest)) (hcolumn : 0 < column) (hc : isSpace c = true)
    (hgap : p.gap = gap) :
    singleQuotedFrom? (fuel + 1) p =
      (singleQuotedFrom? fuel gap.after).map fun (text, after) => (gap.text ++ text, after) := by
  rw [singleQuotedFrom?, hp.rest_eq]
  simp only [hp.isDocumentMark_eq_false hcolumn, hc, hgap, Bool.false_eq_true, if_false, if_true]

theorem singleQuotedFrom?_char {fuel column : Nat} {p : Position} {c : Char}
    (hp : p.IsAt column (singleQuotedChar c ++ rest)) (hcolumn : 0 < column)
    (hc : isSpace c = false) :
    ∃ behind column', singleQuotedFrom? (fuel + 1) p =
        (singleQuotedFrom? fuel behind).map (fun (text, after) => (c :: text, after)) ∧
      behind.IsAt column' rest ∧ 0 < column' := by
  have hmark := hp.isDocumentMark_eq_false hcolumn
  by_cases hquote : c = '\x27'
  · subst hquote
    have hp : p.IsAt column ('\x27' :: '\x27' :: rest) := hp
    have hsecond := hp.next rfl
    refine ⟨p.next.next, column + 1 + 1, ?_, hsecond.next rfl, Nat.succ_pos _⟩
    rw [singleQuotedFrom?, hp.rest_eq]
    simp [hmark, hc, Position.skipChar?, hsecond.rest_eq]
  · rw [singleQuotedChar, if_neg hquote] at hp
    refine ⟨p.next, column + 1, ?_, hp.next (isBreak_eq_false_of_isSpace hc), Nat.succ_pos _⟩
    rw [singleQuotedFrom?, hp.rest_eq]
    simp [hmark, hc, hquote]

/-- A run of white space is read as it was, be it spaces or line breaks. -/
theorem singleQuotedFrom?_run {fuel column : Nat} {p : Position} {front tail : List Char}
    (hp : p.IsAt column (singleBody indent (front ++ rest) ++ tail)) (hcolumn : 0 < column)
    (hindent : 0 < indent) (hne : front ≠ []) (hfront : ∀ c ∈ front, isSpace c = true)
    (hrest : BeginsWord rest) (hfoldable : IsFoldable (front ++ rest)) :
    ∃ behind column', singleQuotedFrom? (fuel + 1) p =
        (singleQuotedFrom? fuel behind).map (fun (text, after) => (front ++ text, after)) ∧
      behind.IsAt column' (singleBody indent rest ++ tail) ∧ 0 < column' := by
  obtain ⟨c, front', hcons⟩ := List.exists_cons_of_ne_nil hne
  have hc : isSpace c = true := hfront c (by rw [hcons]; exact List.mem_cons_self)
  have hbegins : BeginsWord (singleBody indent rest ++ tail) := beginsWord_singleBody hrest tail
  have hspaces : ∀ c ∈ front, c = ' ' ∨ isBreak c = true := fun c hc =>
    hfoldable.spaces c (List.mem_append_left _ hc) (hfront c hc)
  -- As no space touches a break, the run is one of spaces, which stay, or one of breaks, behind
  -- which an indentation is written.
  rcases blanks_or_breaks hspaces hfoldable.before hfoldable.after with hblanks | hbreaks
  · have hisBlank : ∀ c ∈ front, isBlank c = true := fun c hc => by rw [hblanks c hc]; rfl
    have hunbroken : IsUnbroken front := fun c hc => isBreak_eq_false_of_isBlank (hisBlank c hc)
    have hasItIs : front.flatMap singleQuotedChar = front :=
      flatMap_eq_self fun c hc => by rw [hblanks c hc]; decide
    rw [singleBody_append hunbroken, hasItIs, List.append_assoc] at hp
    refine ⟨p.skip front.length, _, ?_, hp.skip hunbroken, Nat.add_pos_left hcolumn _⟩
    have hgap := hp.gap_of_blanks hisBlank hbegins
    rw [hcons] at hp
    rw [singleQuotedFrom?_gap hp hcolumn hc hgap]
    rfl
  · rw [singleBody_breaks_append hne hbreaks hrest, List.append_assoc] at hp
    obtain ⟨behind, hgap, hbehind⟩ :=
      hp.gap_of_breaks hne hbreaks (fun _ => isBlank_of_mem_indentation) hbegins
    rw [length_indentation] at hbehind
    refine ⟨behind, indent, ?_, hbehind, hindent⟩
    have hnoFeed : '\n' ∉ front := fun hfeed => hfoldable.noFeed (List.mem_append_left _ hfeed)
    rw [hcons] at hp
    rw [singleQuotedFrom?_gap hp hcolumn hc hgap]
    simp [Gap.text, Gap.isBroken, hne, foldedBreaks_of_not_mem hnoFeed]

theorem singleQuotedFrom?_singleBody (hindent : 0 < indent) {tail : List Char}
    (htail : tail.head? ≠ some '\x27') (cs : List Char) :
    ∀ (fuel : Nat) (p : Position) (column : Nat), cs.length < fuel → 0 < column →
      IsFoldable cs → p.IsAt column (singleBody indent cs ++ tail) →
      ∃ after behind, singleQuotedFrom? fuel p = some (cs, after) ∧ after.IsAt behind tail := by
  induction cs using Text.runs_induction isSpace with
  | nil =>
      rintro (_ | fuel) p column hfuel hcolumn hfoldable hp
      · exact absurd hfuel (Nat.not_lt_zero _)
      have hp : p.IsAt column ('\x27' :: tail) := hp
      have hafter := hp.next rfl
      refine ⟨p.next, column + 1, ?_, hafter⟩
      rw [singleQuotedFrom?, hp.rest_eq]
      simp [hp.isDocumentMark_eq_false hcolumn, show isSpace '\x27' = false from rfl,
        Position.skipChar?, hafter.rest_eq, htail]
  | other c cs hc ih =>
      rintro (_ | fuel) p column hfuel hcolumn hfoldable hp
      · exact absurd hfuel (Nat.not_lt_zero _)
      have hline : IsUnbroken [c] := List.forall_mem_singleton.mpr (isBreak_eq_false_of_isSpace hc)
      rw [← List.singleton_append, singleBody_append hline, List.flatMap_singleton,
        List.append_assoc] at hp
      obtain ⟨mid, column', hstep, hmid, hcolumn'⟩ := singleQuotedFrom?_char hp hcolumn hc
      obtain ⟨after, behind, hread, hafter⟩ := ih fuel mid column' (Nat.lt_of_succ_lt_succ hfuel)
        hcolumn' (@IsFoldable.of_append [c] cs hfoldable) hmid
      exact ⟨after, behind, by rw [hstep, hread, Option.map_some], hafter⟩
  | run front cs hne hfront hcs ih =>
      rintro (_ | fuel) p column hfuel hcolumn hfoldable hp
      · exact absurd hfuel (Nat.not_lt_zero _)
      have hlength := List.length_pos_iff.mpr hne
      rw [List.length_append] at hfuel
      obtain ⟨mid, column', hstep, hmid, hcolumn'⟩ :=
        singleQuotedFrom?_run hp hcolumn hindent hne hfront hcs hfoldable
      obtain ⟨after, behind, hread, hafter⟩ := ih fuel mid column' (by omega) hcolumn'
        hfoldable.of_append hmid
      exact ⟨after, behind, by rw [hstep, hread, Option.map_some], hafter⟩

theorem singleQuoted?_eq {cs tail : List Char} {p : Position} {column : Nat}
    (hp : p.IsAt column (singleBody indent cs ++ tail)) (hcolumn : 0 < column)
    (hindent : 0 < indent) (htail : tail.head? ≠ some '\x27') (hfoldable : IsFoldable cs) :
    ∃ after behind, singleQuoted? p = some (cs, after) ∧ after.IsAt behind tail := by
  refine singleQuotedFrom?_singleBody hindent htail cs _ p column ?_ hcolumn hfoldable hp
  have hwrite (c : Char) : 1 ≤ (singleQuotedChar c).length := by
    unfold singleQuotedChar
    split <;> simp
  have hlength : cs.length ≤ (singleBody indent cs).length := by
    have hbody := @length_le_indented indent _ hwrite false cs
    rw [singleBody, List.length_append]
    omega
  rw [hp.rest_eq, List.length_append]
  omega

end JetStream.Yaml

import JetStream.Proofs.Settings.Layers
import JetStream.Proofs.Text.Split

/-!
# Tracing and the level of the log

The level of the log is a list of directives with commas between them.  `IsRaised` says that one of
them shows what is traced.  Tracing adds such a directive, but not to a level that has the text of
one in it: a directive for something else that ends in the name of the tool hides it.
`effectiveLog_exact` says that this is the only way in which tracing does not show.

## Strategy

The level is looked at as a whole in lower case.  The texts that are looked for have no comma, so
they occur in the level just if they occur in one of its directives (`contains_lower_iff`).
-/

namespace JetStream

open Text

namespace Settings

/-- The directives that show what is traced. -/
def raisingDirectives : List String := ["debug", "trace", "jetctl=debug", "jetctl=trace"]

/-- One of the directives of a level, in any case and with blanks around it, shows what is
traced. -/
def IsRaised (level : String) : Prop :=
  ∃ directive ∈ split ',' level, lower (trim directive) ∈ raisingDirectives

/-- A directive has the text of one for the tool somewhere in it. -/
def Mentions (directive : String) : Prop :=
  ∃ word ∈ ["jetctl=debug", "jetctl=trace"], word.toList <:+: (lower directive).toList

end Settings

/-! ## Directives -/

namespace Text

theorem toLower_eq_comma_iff (c : Char) : c.toLower = ',' ↔ c = ',' := by
  rw [← Char.toNat_inj, ← Char.toNat_inj, toNat_toLower]
  have hcomma : ','.toNat = 44 := rfl
  split <;> omega

theorem splitChars_map_toLower (cs : List Char) :
    splitChars ',' (cs.map Char.toLower) = (splitChars ',' cs).map (List.map Char.toLower) := by
  induction cs with
  | nil => rfl
  | cons c rest ih =>
      by_cases hc : c = ','
      · rw [List.map_cons, splitChars, if_pos ((toLower_eq_comma_iff c).mpr hc), ih, splitChars,
          if_pos hc, List.map_cons, List.map_nil]
      · obtain ⟨part, parts, hrest, hcons⟩ := exists_splitChars_cons hc rest
        obtain ⟨part', parts', hrest', hcons'⟩ :=
          exists_splitChars_cons (mt (toLower_eq_comma_iff c).mp hc) (rest.map Char.toLower)
        rw [hrest, hrest', List.map_cons] at ih
        obtain ⟨rfl, rfl⟩ := List.cons_eq_cons.mp ih
        rw [List.map_cons, hcons', hcons, List.map_cons, List.map_cons]

theorem toList_lower (s : String) : (lower s).toList = s.toList.map Char.toLower := by
  rw [lower, String.toList_ofList]

/-- A word without a comma occurs in a list with commas if it occurs in one of its parts. -/
theorem contains_lower_iff {word : String} (hword : ',' ∉ word.toList) (s : String) :
    contains (lower s) word = true ↔
      ∃ part ∈ split ',' s, word.toList <:+: (lower part).toList := by
  rw [contains, occursIn_iff, infix_iff_exists_splitChars hword, toList_lower,
    splitChars_map_toLower]
  simp [split, toList_lower]

end Text

namespace Settings

theorem isVerbose_iff (level : String) :
    isVerbose level = true ↔
      lower level ∈ ["debug", "trace"] ∨ ∃ directive ∈ split ',' level, Mentions directive := by
  have hdebug := @contains_lower_iff "jetctl=debug" (by decide) level
  have htrace := @contains_lower_iff "jetctl=trace" (by decide) level
  simp only [isVerbose, Bool.or_eq_true, hdebug, htrace, List.contains_iff_mem, Mentions,
    List.mem_cons, List.not_mem_nil, or_false, exists_eq_or_imp, exists_eq_left, or_assoc,
    and_or_left, exists_or]

/-- A plain level has neither commas nor blanks. -/
theorem isRaised_of_lower_mem {level : String} (h : lower level ∈ ["debug", "trace"]) :
    IsRaised level := by
  have hletters : ∀ word ∈ ["debug", "trace"], ∀ c ∈ word.toList, c.isLower = true := by simp
  have hlower : ∀ c ∈ level.toList, c.toLower.isLower = true := by
    intro c hc
    refine hletters _ h _ ?_
    rw [toList_lower]
    exact List.mem_map_of_mem hc
  have hcomma : ',' ∉ level.toList := fun hmem => absurd (hlower _ hmem) (by decide)
  have hblank : ∀ c ∈ level.toList, isBlank c = false := by
    intro c hc
    have hbounds := bounds_of_isLower (hlower c hc)
    rw [toNat_toLower] at hbounds
    have hshows : 0x20 < c.toNat ∧ c.toNat < 0x7f := by
      split at hbounds <;> omega
    exact isBlank_eq_false_of_shows hshows.1 hshows.2
  refine ⟨level, ?_, ?_⟩
  · rw [split_of_notMem hcomma]
    exact List.mem_singleton_self level
  · rw [trim_eq_self hblank]
    exact List.subset_append_left ["debug", "trace"] _ h

/-- Tracing adds a directive for the tool, unless the level has one of the texts in it. -/
theorem effectiveLog_of_trace {s : Settings} (h : s.trace = true) :
    s.effectiveLog =
      if isVerbose s.log.level then s.log
      else { s.log with level := s.log.level ++ ",jetctl=debug" } := by
  rw [effectiveLog, h, Bool.true_and]
  cases isVerbose s.log.level with
  | true => rfl
  | false => rfl

theorem split_append_tracing (level : String) :
    split ',' (level ++ ",jetctl=debug") = split ',' level ++ ["jetctl=debug"] := by
  have htext : level ++ ",jetctl=debug" = level ++ String.singleton ',' ++ "jetctl=debug" := by
    rw [String.append_assoc]
    rfl
  have hword : split ',' "jetctl=debug" = ["jetctl=debug"] := by decide
  rw [htext, split_append, hword]

theorem isVerbose_append_tracing (level : String) :
    isVerbose (level ++ ",jetctl=debug") = true := by
  rw [isVerbose_iff, split_append_tracing]
  refine .inr ⟨"jetctl=debug", List.mem_append_right _ (List.mem_singleton_self _), ?_⟩
  exact ⟨"jetctl=debug", List.mem_cons_self, by decide⟩

theorem isRaised_append_tracing (level : String) : IsRaised (level ++ ",jetctl=debug") := by
  rw [IsRaised, split_append_tracing]
  exact ⟨"jetctl=debug", List.mem_append_right _ (List.mem_singleton_self _), by decide⟩

theorem isRaised_effectiveLog_iff {s : Settings} (h : s.trace = true) :
    IsRaised s.effectiveLog.level ↔
      IsRaised s.log.level ∨ ∀ directive ∈ split ',' s.log.level, ¬Mentions directive := by
  rw [effectiveLog_of_trace h]
  split
  next hverbose =>
    -- Nothing is added.  If nothing is mentioned either, the level is one of the plain ones.
    refine ⟨.inl, fun h => h.elim id fun hnone => ?_⟩
    rcases (isVerbose_iff s.log.level).mp hverbose with hplain | ⟨directive, hmem, hmentions⟩
    · exact isRaised_of_lower_mem hplain
    · exact absurd hmentions (hnone directive hmem)
  next hquiet =>
    refine iff_of_true (isRaised_append_tracing s.log.level)
      (.inr fun directive hmem hmentions => ?_)
    exact hquiet ((isVerbose_iff s.log.level).mpr (.inr ⟨directive, hmem, hmentions⟩))

theorem json_effectiveLog (s : Settings) : s.effectiveLog.json = s.log.json := by
  unfold effectiveLog
  split
  next => rfl
  next => rfl

/-- The level stays of use. -/
theorem isUsable_effectiveLog {s : Settings} (h : s.IsUsable) :
    { s with log := s.effectiveLog }.IsUsable where
  server := h.server
  timeout := h.timeout
  level := by
    unfold effectiveLog
    split
    next =>
      refine .inr ?_
      rw [String.toList_append]
      exact List.mem_append_right _ (by decide)
    next => exact h.level

/-- Nothing is added twice. -/
theorem effectiveLog_effectiveLog (s : Settings) :
    { s with log := s.effectiveLog }.effectiveLog = s.effectiveLog := by
  by_cases htrace : s.trace = true
  · have hverbose : isVerbose s.effectiveLog.level = true := by
      rw [effectiveLog_of_trace htrace]
      split
      next hverbose => exact hverbose
      next => exact isVerbose_append_tracing s.log.level
    have hagain : { s with log := s.effectiveLog }.trace = true := htrace
    rw [effectiveLog_of_trace hagain]
    exact if_pos hverbose
  · simp [effectiveLog, htrace]

/-- Without tracing the settings for logging are left as they are.  With tracing, one of the
directives in effect shows what is traced, unless none of the given ones does and one of them
nevertheless has the text of such a directive in it.  The level stays of use, the choice of JSON is
kept, and to do it again changes nothing. -/
theorem effectiveLog_exact {s : Settings} (h : s.validate = .ok ()) :
    (s.trace = false → s.effectiveLog = s.log) ∧
    (s.trace = true → (IsRaised s.effectiveLog.level ↔
      IsRaised s.log.level ∨ ∀ directive ∈ split ',' s.log.level, ¬Mentions directive)) ∧
    s.effectiveLog.json = s.log.json ∧
    { s with log := s.effectiveLog }.validate = .ok () ∧
    { s with log := s.effectiveLog }.effectiveLog = s.effectiveLog := by
  refine ⟨fun htrace => ?_, isRaised_effectiveLog_iff, json_effectiveLog s, ?_,
    effectiveLog_effectiveLog s⟩
  · rw [effectiveLog, htrace]
    rfl
  · exact validate_eq_ok_iff.mpr (isUsable_effectiveLog (validate_eq_ok_iff.mp h))

/-- A directive for something else hides what is traced. -/
theorem effectiveLog_exact_hidden :
    let s : Settings := { trace := true, log := { level := "warn,myjetctl=debug" } }
    s.validate = .ok () ∧ s.effectiveLog = s.log ∧ ¬IsRaised s.effectiveLog.level := by
  intro s
  have hvalid : s.validate = .ok () := by decide
  obtain ⟨-, hraised, -⟩ := effectiveLog_exact hvalid
  have hnone : ¬IsRaised s.log.level := by
    have hparts : split ',' s.log.level = ["warn", "myjetctl=debug"] := by decide
    simp only [IsRaised, hparts]
    decide
  have hmentions : Mentions "myjetctl=debug" := ⟨"jetctl=debug", List.mem_cons_self, by decide⟩
  refine ⟨hvalid, by decide, fun h => ?_⟩
  rcases (hraised rfl).mp h with h | h
  · exact hnone h
  · exact h "myjetctl=debug" (by decide) hmentions

end Settings

end JetStream

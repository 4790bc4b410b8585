import JetStream.Proofs.Consumer.Accepted
import JetStream.Proofs.Consumer.Resolved

/-!
# Configurations from files

A configuration file stands for all flags but the name, and for all answers.  The configuration in
it is taken as it is or normalized, and refused only when it is for a consumer of another name.

## Strategy

Nothing in `resolveFile` comes from a prompter, from the clock or from another flag, and of all the
files it reads one.  So a run of it is known once the load of that file is (`outcome_resolveFile`).
The errors of a load are never about the input (`load_ne_input`), so an error of that class is the
refusal of a name.

Normalizing makes `KeepsModes` hold and changes nothing where that holds already
(`normalize_eq_self_iff`).  Both rules are among those of a configuration made of flags and answers.
-/

namespace JetStream.Consumer

open Resolve

/-! ## Normalizing -/

namespace Config

variable {c : Config}

/-- Whoever pulls acknowledges each message, and without acknowledgements deliveries have no
limit. -/
structure KeepsModes (c : Config) : Prop where
  explicit_of_pull : c.isPull = true → c.ackPolicy = .explicit
  unlimited_of_unacknowledged : c.ackPolicy = .none → c.maxDeliver = -1

theorem IsResolved.keepsModes {ephemeral : Bool} (h : c.IsResolved ephemeral) : c.KeepsModes where
  explicit_of_pull := h.explicit_of_pull
  unlimited_of_unacknowledged := h.unlimited_of_unacknowledged

theorem normalize_of_pull (hpull : c.isPull = true) :
    c.normalize = { c with ackPolicy := .explicit } := by
  unfold normalize
  rw [if_pos hpull]
  rfl

theorem normalize_of_push (hpush : ¬c.isPull = true) :
    c.normalize = if c.ackPolicy = .none then { c with maxDeliver := -1 } else c := by
  unfold normalize
  rw [if_neg hpush]

/-- The acknowledgement policy is settled first, and with it whether deliveries are limited. -/
theorem normalize_eq (c : Config) :
    c.normalize =
      { c with
        ackPolicy := if c.isPull then .explicit else c.ackPolicy
        maxDeliver := if c.isPull = false ∧ c.ackPolicy = .none then -1 else c.maxDeliver } := by
  by_cases hpull : c.isPull = true
  · rw [normalize_of_pull hpull]
    simp [hpull]
  · rw [normalize_of_push hpull]
    by_cases hack : c.ackPolicy = .none
    · simp [hpull, hack]
    · simp [hpull, hack]

theorem keepsModes_normalize (c : Config) : c.normalize.KeepsModes := by
  by_cases hpull : c.isPull = true
  · rw [normalize_of_pull hpull]
    exact ⟨fun _ => rfl, fun hack => nomatch hack⟩
  · rw [normalize_of_push hpull]
    split
    next => exact ⟨fun h => absurd h hpull, fun _ => rfl⟩
    next hack => exact ⟨fun h => absurd h hpull, fun h => absurd h hack⟩

/-- Where the rules hold, and only there, there is nothing to normalize. -/
theorem normalize_eq_self_iff : c.normalize = c ↔ c.KeepsModes := by
  constructor
  · intro hsame
    exact hsame ▸ c.keepsModes_normalize
  · intro h
    by_cases hpull : c.isPull = true
    · rw [normalize_of_pull hpull, ← h.explicit_of_pull hpull]
    · rw [normalize_of_push hpull]
      split
      next hack => rw [← h.unlimited_of_unacknowledged hack]
      next => rfl

end Config

/-! ## Names -/

/-- A configuration for a durable consumer of another name than the one that is given, if one is. -/
def Config.IsNamedOtherThan (c : Config) (name : Option String) : Prop :=
  ∃ durable other, c.durableName = some durable ∧ name = some other ∧ other ≠ "" ∧ durable ≠ other

variable {path : String} {name : Option String} {c : Config}

theorem checkFileName_of_named (h : c.IsNamedOtherThan name) :
    ∃ reason, checkFileName path name c = .error (.input reason) := by
  obtain ⟨durable, other, hdurable, rfl, hne, hother⟩ := h
  unfold checkFileName
  rw [hdurable, given_eq_some_iff.mpr ⟨rfl, hne⟩]
  exact ⟨_, if_neg hother⟩

theorem checkFileName_of_not_named (h : ¬c.IsNamedOtherThan name) :
    checkFileName path name c = .ok () := by
  unfold checkFileName
  split
  next durable other hdurable hgiven =>
    obtain ⟨hname, hne⟩ := given_eq_some_iff.mp hgiven
    have hsame : durable = other := Decidable.byContradiction fun hother =>
      h ⟨durable, other, hdurable, hname, hne, hother⟩
    exact if_pos hsame
  next => rfl

/-! ## Loading -/

theorem Config.load_ne_input {files : Files} {reason : String} :
    (Config.load files path).1 ≠ .error (.input reason) := by
  intro h
  unfold Config.load at h
  split at h
  next => exact nomatch h
  next text _ =>
    unfold Config.ofFileText at h
    split at h
    next e hdocument =>
      cases h
      unfold Config.readDocument at hdocument
      split at hdocument
      next => split at hdocument <;> exact nomatch hdocument
      next => split at hdocument <;> exact nomatch hdocument
    next document _ =>
      dsimp only at h
      cases hread : Config.ofJson document with
      | error fault =>
          rw [hread] at h
          exact nomatch h
      | ok c =>
          rw [hread] at h
          exact nomatch h

/-- What becomes of the configuration of a file under a name that is given. -/
def fileResult (normalize : Bool) (path : String) (name : Option String) (c : Config) :
    Except Error Config :=
  match checkFileName path name c with
  | .error e => .error e
  | .ok () => .ok (if normalize then c.normalize else c)

theorem fileResult_of_named {normalize : Bool} (h : c.IsNamedOtherThan name) :
    ∃ reason, fileResult normalize path name c = .error (.input reason) := by
  obtain ⟨reason, hreason⟩ := @checkFileName_of_named path name c h
  unfold fileResult
  rw [hreason]
  exact ⟨reason, rfl⟩

theorem fileResult_of_not_named {normalize : Bool} (h : ¬c.IsNamedOtherThan name) :
    fileResult normalize path name c = .ok (if normalize then c.normalize else c) := by
  unfold fileResult
  rw [checkFileName_of_not_named h]

theorem fileResult_eq_input_iff {normalize : Bool} :
    (∃ reason, fileResult normalize path name c = .error (.input reason)) ↔
      c.IsNamedOtherThan name := by
  constructor
  · rintro ⟨reason, hreason⟩
    refine Classical.byContradiction fun hnamed => ?_
    rw [fileResult_of_not_named hnamed] at hreason
    exact nomatch hreason
  · exact fileResult_of_named

/-- What a file comes to, and that nothing is asked about it. -/
theorem outcome_resolveFile (files : Files) (normalize : Bool) (path : String)
    (name : Option String) :
    (resolveFile files normalize path name).outcome.1 =
        (Config.load files path).1.bind (fileResult normalize path name) ∧
      (resolveFile files normalize path name).outcome.2.asked = [] := by
  unfold resolveFile
  obtain ⟨result, events⟩ := Config.load files path
  cases result with
  | error e => exact ⟨rfl, rfl⟩
  | ok c =>
      simp only [ofExcept_ok, pure_bind, Except.bind]
      unfold fileResult
      cases checkFileName path name c with
      | error e => exact ⟨rfl, rfl⟩
      | ok _ => exact ⟨rfl, rfl⟩

/-! ## Building -/

variable {circumstances circumstances' : Circumstances} {prompter prompter' : Prompter}
  {flags flags' : Flags}

theorem build_eq_resolveFile (hpath : flags.configFile = some path) :
    build circumstances prompter flags =
      resolveFile circumstances.files circumstances.normalizeFileConfigs path flags.name := by
  unfold build
  rw [hpath]

/-- A file is resolved from its own text alone. -/
theorem resolveFile_congr {files files' : Files} {normalize : Bool}
    (hread : files'.readText path = files.readText path) :
    resolveFile files' normalize path name = resolveFile files normalize path name := by
  have hload : Config.load files' path = Config.load files path := by
    unfold Config.load
    rw [hread]
  unfold resolveFile
  rw [hload]

/-- Under a file nothing counts but the text of it, the name that is given and whether it is to be
normalized.  The result is an error about the input just where the file is for a consumer of another
name; a file that cannot be loaded fails as the load does, and any other gives its configuration.
What normalizing does to a configuration is what the rules demand that also hold for those made of
flags and answers. -/
theorem build_of_configFile (hpath : flags.configFile = some path)
    (hpath' : flags'.configFile = some path) (hname : flags'.name = flags.name)
    (hread : circumstances'.files.readText path = circumstances.files.readText path)
    (hnormalize : circumstances'.normalizeFileConfigs = circumstances.normalizeFileConfigs) :
    let loaded := (Config.load circumstances.files path).1
    let outcome := (build circumstances prompter flags).outcome
    (build circumstances' prompter' flags').outcome = outcome ∧
    outcome.2.asked = [] ∧
    ((∃ reason, outcome.1 = .error (.input reason)) ↔
      ∃ c, loaded = .ok c ∧ c.IsNamedOtherThan flags.name) ∧
    (∀ e, loaded = .error e → outcome.1 = .error e) ∧
    (∀ c, loaded = .ok c → ¬c.IsNamedOtherThan flags.name →
      outcome.1 = .ok (if circumstances.normalizeFileConfigs then c.normalize else c)) ∧
    (∀ c : Config,
      c.normalize =
          { c with
            ackPolicy := if c.isPull then .explicit else c.ackPolicy
            maxDeliver := if c.isPull = false ∧ c.ackPolicy = .none then -1 else c.maxDeliver } ∧
        c.normalize.normalize = c.normalize ∧ c.normalize.KeepsModes) ∧
    ∀ (circumstances : Circumstances) (prompter : Prompter) (flags : Flags) (c : Config),
      flags.configFile = none → (build circumstances prompter flags).outcome.1 = .ok c →
        c.KeepsModes := by
  intro loaded outcome
  have houtcome : outcome =
      (resolveFile circumstances.files circumstances.normalizeFileConfigs path
        flags.name).outcome := congrArg Resolve.outcome (build_eq_resolveFile hpath)
  obtain ⟨hresult, hasked⟩ := outcome_resolveFile circumstances.files
    circumstances.normalizeFileConfigs path flags.name
  rw [← houtcome] at hresult hasked
  refine ⟨?_, hasked, ?_, ?_, ?_, ?_, ?_⟩
  · rw [build_eq_resolveFile hpath', hname, hnormalize, resolveFile_congr hread, houtcome]
  · constructor
    · rintro ⟨reason, hreason⟩
      rw [hresult] at hreason
      cases hloaded : (Config.load circumstances.files path).1 with
      | error e =>
          rw [hloaded] at hreason
          exact absurd (hloaded.trans hreason) Config.load_ne_input
      | ok c =>
          rw [hloaded] at hreason
          exact ⟨c, hloaded, fileResult_eq_input_iff.mp ⟨reason, hreason⟩⟩
    · rintro ⟨c, hloaded, hnamed⟩
      rw [hresult, show (Config.load circumstances.files path).1 = .ok c from hloaded]
      exact fileResult_of_named hnamed
  · intro e hloaded
    rw [hresult, show (Config.load circumstances.files path).1 = .error e from hloaded]
    rfl
  · intro c hloaded hnamed
    rw [hresult, show (Config.load circumstances.files path).1 = .ok c from hloaded]
    exact fileResult_of_not_named hnamed
  · intro c
    exact ⟨c.normalize_eq, Config.normalize_eq_self_iff.mpr c.keepsModes_normalize,
      c.keepsModes_normalize⟩
  · intro circumstances prompter flags c hfile hbuilt
    obtain ⟨r, rfl⟩ := exists_resolution_of_build hfile hbuilt
    exact r.config_isResolved.keepsModes

/-- One file for a pulled consumer without acknowledgements and with a limit on deliveries, once
with nobody to ask, and once with flags that say other things and with answers. -/
theorem build_of_configFile_ignored :
    let text := "\x7b\"durable_name\":\"jobs\",\"ack_policy\":\"none\",\"max_deliver\":3\x7d"
    let files : Files := ⟨[("jobs.json", Text.encode text)]⟩
    let circumstances : Circumstances :=
      { files := files, normalizeFileConfigs := true, now := .epoch }
    let flags : Flags := { name := some "jobs", configFile := some "jobs.json" }
    let others : Flags :=
      { flags with ephemeral := true, ackPolicy := some "all", maxDeliver := some 7 }
    let answers : Prompter :=
      { ask := fun _ _ => .ok "4", choose := Prompter.refuseChoice }
    let c : Config := { durableName := some "jobs", ackPolicy := .explicit, maxDeliver := 3 }
    (build circumstances .nonInteractive flags).outcome.1 = .ok c ∧
      (build circumstances answers others).outcome.1 = .ok c ∧
      (build circumstances answers others).outcome.2.asked = [] ∧
      ∃ reason, (build circumstances answers { flags with name := some "mail" }).outcome.1 =
        .error (.input reason) := by
  intro text files circumstances flags others answers c
  have hloaded : (Config.load files "jobs.json").1 =
      .ok { durableName := some "jobs", ackPolicy := .none, maxDeliver := 3 } :=
    Config.eq_ok_of_toOption (by decide +kernel)
  have hnamed : ¬Config.IsNamedOtherThan
      { durableName := some "jobs", ackPolicy := .none, maxDeliver := 3 } flags.name := by
    rintro ⟨_, _, hdurable, hname, -, hother⟩
    cases hdurable
    cases hname
    exact hother rfl
  obtain ⟨hsame, hasked, -, -, hbuilt, -⟩ :=
    @build_of_configFile "jobs.json" circumstances circumstances .nonInteractive answers flags
      others rfl rfl rfl rfl rfl
  obtain ⟨-, -, hrefused, -⟩ :=
    @build_of_configFile "jobs.json" circumstances circumstances answers answers
      { flags with name := some "mail" } { flags with name := some "mail" } rfl rfl rfl rfl rfl
  refine ⟨hbuilt _ hloaded hnamed, ?_, ?_, ?_⟩
  · rw [hsame]
    exact hbuilt _ hloaded hnamed
  · rw [hsame]
    exact hasked
  · exact hrefused.mpr ⟨_, hloaded, "jobs", "mail", rfl, rfl, by decide, by decide⟩

end JetStream.Consumer

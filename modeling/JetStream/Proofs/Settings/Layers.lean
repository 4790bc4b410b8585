import JetStream.Proofs.Settings.File
import JetStream.Proofs.Text.Blank
import JetStream.Proofs.Text.Case
import JetStream.Settings.Overrides

/-!
# Settings from all layers

The settings of a run come from the command line, the environment, a file and the defaults, in this
order.  `IsLayered` says for each setting by itself which of them it is taken from, and how: most
are taken from the first that supplies them, a variable may also switch something off again, and
what the file or the command line switches on stays on.  `resolve_layered` says that the settings of
a run are those, and tells each way in which there are none.

## Strategy

Apart from a timeout that cannot be read, the environment and the command line never fail, so they
are functions of the settings below them (`withVariables`, `withOverrides`).
`isLayered_withOverrides` says what these come to over a file, and `resolve_eq_ok_iff` when the two
checks let it pass.
-/

namespace JetStream

open Text

/-! ## Settings that are of use -/

namespace Settings

/-- The address is not blank, there is time for an answer, and the level is one of the plain ones in
any case, or has directives in it. -/
structure IsUsable (s : Settings) : Prop where
  server : ∃ c ∈ s.server.toList, isBlank c = false
  timeout : 0 < s.timeout.nanoseconds
  level : (∃ level ∈ levels, IsSpelling level s.log.level) ∨ '=' ∈ s.log.level.toList

theorem mem_levels_iff (level : String) :
    lower level ∈ levels ↔ ∃ word ∈ levels, IsSpelling word level := by
  have hlower : ∀ word ∈ levels, ∀ c ∈ word.toList, c.isLower = true := by
    simp [levels]
  constructor
  · intro h
    exact ⟨lower level, h, (lower_eq_iff (hlower _ h)).mp rfl⟩
  · rintro ⟨word, hword, hspelling⟩
    rw [(lower_eq_iff (hlower word hword)).mpr hspelling]
    exact hword

theorem problem?_eq_none_iff (s : Settings) : s.problem? = none ↔ s.IsUsable := by
  have hserver : (trim s.server).isEmpty = true ↔ ¬∃ c ∈ s.server.toList, isBlank c = false := by
    rw [isEmpty_trim_iff]
    simp
  have htimeout : s.timeout.isZero = true ↔ ¬0 < s.timeout.nanoseconds := by
    simp [Duration.isZero]
  have hlevel : (!levels.contains (lower s.log.level) && !contains s.log.level "=") = true ↔
      ¬((∃ level ∈ levels, IsSpelling level s.log.level) ∨ '=' ∈ s.log.level.toList) := by
    rw [← mem_levels_iff, ← occursIn_singleton_iff]
    simp [contains]
  unfold problem?
  split
  next h => exact ⟨nofun, fun husable => absurd husable.server (hserver.mp h)⟩
  next hnotBlank =>
    split
    next h => exact ⟨nofun, fun husable => absurd husable.timeout (htimeout.mp h)⟩
    next hnotZero =>
      split
      next h => exact ⟨nofun, fun husable => absurd husable.level (hlevel.mp h)⟩
      next hknown =>
        refine iff_of_true rfl ⟨?_, ?_, ?_⟩
        · exact not_not.mp (mt hserver.mpr hnotBlank)
        · exact not_not.mp (mt htimeout.mpr hnotZero)
        · exact not_not.mp (mt hlevel.mpr hknown)

theorem validate_eq_ok_iff {s : Settings} {done : Unit} : s.validate = .ok done ↔ s.IsUsable := by
  rw [← problem?_eq_none_iff]
  unfold validate
  cases s.problem? with
  | none => simp
  | some problem => simp

/-! ## The environment -/

/-- The timeout in the environment, where it can be read. -/
def environmentTimeout? (lookup : Environment) : Option Duration :=
  (lookup "JETCTL_TIMEOUT").bind fun text => (Duration.parse text).toOption

/-- The environment has a timeout that cannot be read. -/
def HasBadTimeout (lookup : Environment) : Prop :=
  ∃ text fault, lookup "JETCTL_TIMEOUT" = some text ∧ Duration.parse text = .error fault

/-- The settings with what the environment supplies, apart from a timeout that cannot be read. -/
def withVariables (lookup : Environment) (s : Settings) : Settings where
  server := ((lookup "JETCTL_SERVER").or (lookup "NATS_URL")).getD s.server
  timeout := (environmentTimeout? lookup).getD s.timeout
  noValidate := ((lookup "NOVALIDATE").map bypassRequested).getD s.noValidate
  normalizeFileConfigs :=
    ((lookup "JETCTL_NORMALIZE_FILE_CONFIGS").map isOn).getD s.normalizeFileConfigs
  trace := s.trace
  log := { s.log with level := (lookup "JETCTL_LOG_LEVEL").getD s.log.level }

theorem withEnvironment_eq_ok_iff {lookup : Environment} {s s' : Settings} :
    withEnvironment lookup s = .ok s' ↔ ¬HasBadTimeout lookup ∧ s.withVariables lookup = s' := by
  unfold withEnvironment HasBadTimeout withVariables environmentTimeout?
  cases lookup "JETCTL_TIMEOUT" with
  | none => simp [bind_eq_ok_iff]
  | some text =>
      cases hparse : Duration.parse text with
      | error fault => simp [bind_eq_ok_iff, mapError_eq_ok_iff, hparse]
      | ok timeout => simp [bind_eq_ok_iff, mapError_eq_ok_iff, hparse, Except.toOption]

/-! ## Which layer counts -/

/-- Each setting is taken from the layers in its own way, whatever the other settings are.  From the
top the layers are the command line, the environment, the file and the defaults. -/
structure IsLayered (layer : Layer) (lookup : Environment) (o : Overrides) (s : Settings) :
    Prop where
  server : s.server =
    (o.server.or ((lookup "JETCTL_SERVER").or ((lookup "NATS_URL").or layer.server))).getD
      "nats://127.0.0.1:4222"
  timeout : s.timeout =
    (o.timeout.or ((environmentTimeout? lookup).or layer.timeout)).getD (.ofSeconds 5)
  level : s.log.level =
    (o.logLevel.or ((lookup "JETCTL_LOG_LEVEL").or (layer.log.bind (·.level)))).getD "warn"
  /-- Any variable counts, and an empty one switches off what the file switches on. -/
  noValidate : s.noValidate = true ↔
    (∃ value, lookup "NOVALIDATE" = some value ∧ value ≠ "") ∨
      (lookup "NOVALIDATE" = none ∧ layer.noValidate = some true)
  /-- Any variable counts, and some words switch off what the file switches on. -/
  normalizeFileConfigs : s.normalizeFileConfigs = true ↔
    (∃ value, lookup "JETCTL_NORMALIZE_FILE_CONFIGS" = some value ∧
      lower (trim value) ∉ ["", "0", "false", "no", "off"]) ∨
      (lookup "JETCTL_NORMALIZE_FILE_CONFIGS" = none ∧ layer.normalizeFileConfigs = some true)
  trace : s.trace = true ↔ layer.trace = some true ∨ o.trace = true
  json : s.log.json = true ↔ layer.log.bind (·.json) = some true ∨ o.json = true

/-- There is at most one way to take them all. -/
theorem IsLayered.unique {layer : Layer} {lookup : Environment} {o : Overrides} {s s' : Settings}
    (h : IsLayered layer lookup o s) (h' : IsLayered layer lookup o s') : s = s' := by
  obtain ⟨server, timeout, noValidate, normalizeFileConfigs, trace, level, json⟩ := s
  obtain ⟨server', timeout', noValidate', normalizeFileConfigs', trace', level', json'⟩ := s'
  have hserver : server = server' := h.server.trans h'.server.symm
  have htimeout : timeout = timeout' := h.timeout.trans h'.timeout.symm
  have hlevel : level = level' := h.level.trans h'.level.symm
  have hnoValidate : noValidate = noValidate' :=
    Bool.eq_iff_iff.mpr (h.noValidate.trans h'.noValidate.symm)
  have hnormalize : normalizeFileConfigs = normalizeFileConfigs' :=
    Bool.eq_iff_iff.mpr (h.normalizeFileConfigs.trans h'.normalizeFileConfigs.symm)
  have htrace : trace = trace' := Bool.eq_iff_iff.mpr (h.trace.trans h'.trace.symm)
  have hjson : json = json' := Bool.eq_iff_iff.mpr (h.json.trans h'.json.symm)
  rw [hserver, htimeout, hnoValidate, hnormalize, htrace, hlevel, hjson]

theorem getD_false_eq_true_iff (given : Option Bool) :
    given.getD false = true ↔ given = some true := by
  cases given with
  | none => simp
  | some value => simp

/-- A variable that is set decides, and the file if it is not. -/
theorem getD_map_eq_true_iff (setting : Option String) (switches : String → Bool)
    (given : Option Bool) :
    (setting.map switches).getD (given.getD false) = true ↔
      (∃ value, setting = some value ∧ switches value = true) ∨
        (setting = none ∧ given = some true) := by
  cases setting with
  | none => simp [getD_false_eq_true_iff]
  | some value => simp

theorem isLayered_withOverrides (layer : Layer) (lookup : Environment) (o : Overrides) :
    IsLayered layer lookup o ((layer.settings.withVariables lookup).withOverrides o) where
  server := by simp [withOverrides, withVariables, Layer.settings]
  timeout := by simp [withOverrides, withVariables, Layer.settings]
  level := by simp [withOverrides, withVariables, Layer.level_settings]
  noValidate := by
    simp [withOverrides, withVariables, Layer.settings, getD_map_eq_true_iff, bypassRequested]
  normalizeFileConfigs := by
    simp [withOverrides, withVariables, Layer.settings, getD_map_eq_true_iff, isOn]
  trace := by
    simp [withOverrides, withVariables, Layer.settings, getD_false_eq_true_iff]
  json := by
    simp only [withOverrides, withVariables, Layer.json_settings, Bool.or_eq_true,
      getD_false_eq_true_iff]

/-- Without anything on the command line, the environment has the last word. -/
theorem isLayered_withVariables (layer : Layer) (lookup : Environment) :
    IsLayered layer lookup {} (layer.settings.withVariables lookup) := by
  have hnothing (s : Settings) : s.withOverrides {} = s := by simp [withOverrides]
  have hlayered := isLayered_withOverrides layer lookup {}
  rwa [hnothing] at hlayered

/-! ## The settings of a run -/

section Run

variable {files : Files} {path : Option String} {lookup : Environment} {o : Overrides}
  {s : Settings}

theorem load_eq_ok_iff :
    load files path lookup = .ok s ↔
      ∃ layer : Layer, layer.IsFrom files path ∧ ¬HasBadTimeout lookup ∧
        layer.settings.withVariables lookup = s ∧ s.IsUsable := by
  unfold load
  cases path with
  | none =>
      simp only [bind_eq_ok_iff, withEnvironment_eq_ok_iff, validate_eq_ok_iff]
      constructor
      · rintro ⟨_, ⟨⟩, _, ⟨htimeout, rfl⟩, _, husable, ⟨⟩⟩
        exact ⟨{}, rfl, htimeout, rfl, husable⟩
      · rintro ⟨layer, rfl, htimeout, rfl, husable⟩
        exact ⟨{}, rfl, _, ⟨htimeout, rfl⟩, (), husable, rfl⟩
  | some path =>
      simp only [bind_eq_ok_iff, ofFile_eq_ok_iff, withEnvironment_eq_ok_iff, validate_eq_ok_iff]
      constructor
      · rintro ⟨_, ⟨layer, hlayer, rfl⟩, _, ⟨htimeout, rfl⟩, _, husable, ⟨⟩⟩
        exact ⟨layer, hlayer, htimeout, rfl, husable⟩
      · rintro ⟨layer, hlayer, htimeout, rfl, husable⟩
        exact ⟨_, ⟨layer, hlayer, rfl⟩, _, ⟨htimeout, rfl⟩, (), husable, rfl⟩

theorem resolve_eq_ok_iff :
    resolve files path lookup o = .ok s ↔
      ∃ layer : Layer, layer.IsFrom files path ∧ ¬HasBadTimeout lookup ∧
        (layer.settings.withVariables lookup).IsUsable ∧
        (layer.settings.withVariables lookup).withOverrides o = s ∧ s.IsUsable := by
  rw [resolve, bind_eq_ok_iff]
  simp only [mapError_eq_ok_iff, load_eq_ok_iff, bind_eq_ok_iff, validate_eq_ok_iff]
  constructor
  · rintro ⟨base, ⟨layer, hlayer, htimeout, rfl, hbase⟩, _, husable, ⟨⟩⟩
    exact ⟨layer, hlayer, htimeout, hbase, rfl, husable⟩
  · rintro ⟨layer, hlayer, htimeout, hbase, rfl, husable⟩
    exact ⟨_, ⟨layer, hlayer, htimeout, rfl, hbase⟩, (), husable, rfl⟩

/-- The ways in which there are no settings for a run. -/
inductive IsRefused (files : Files) (path : Option String) (lookup : Environment) (o : Overrides) :
    Prop
  /-- The file cannot be read. -/
  | unreadable {file : String} {fault : FileFault} (hpath : path = some file)
      (htext : files.readText file = .error fault)
  /-- The text of the file supplies no layer of settings. -/
  | undecodable {file text : String} (hpath : path = some file)
      (htext : files.readText file = .ok text)
      (hnone : ∀ layer : Layer, ¬layer.IsOf (Yaml.Document.read text))
  /-- The timeout in the environment cannot be read. -/
  | timeout (htimeout : HasBadTimeout lookup)
  /-- The settings are of no use, with what the command line supplies or already without it. -/
  | unusable {layer : Layer} {s : Settings} (hlayer : layer.IsFrom files path)
      (hlayered : IsLayered layer lookup {} s ∨ IsLayered layer lookup o s) (hs : ¬s.IsUsable)

theorem exists_isFrom_or_isRefused (files : Files) (path : Option String) (lookup : Environment)
    (o : Overrides) :
    (∃ layer : Layer, layer.IsFrom files path) ∨ IsRefused files path lookup o := by
  cases path with
  | none => exact .inl ⟨{}, rfl⟩
  | some file =>
      cases htext : files.readText file with
      | error fault => exact .inr (.unreadable rfl htext)
      | ok text =>
          by_cases hlayer : ∃ layer : Layer, layer.IsOf (Yaml.Document.read text)
          · obtain ⟨layer, hlayer⟩ := hlayer
            exact .inl ⟨layer, text, htext, hlayer⟩
          · exact .inr (.undecodable rfl htext fun layer hof => hlayer ⟨layer, hof⟩)

theorem exists_resolve_or_isRefused (files : Files) (path : Option String) (lookup : Environment)
    (o : Overrides) :
    (∃ s, resolve files path lookup o = .ok s) ∨ IsRefused files path lookup o := by
  rcases exists_isFrom_or_isRefused files path lookup o with ⟨layer, hlayer⟩ | hrefused
  · by_cases htimeout : HasBadTimeout lookup
    · exact .inr (.timeout htimeout)
    · by_cases hbase : (layer.settings.withVariables lookup).IsUsable
      · by_cases hs : ((layer.settings.withVariables lookup).withOverrides o).IsUsable
        · exact .inl ⟨_, resolve_eq_ok_iff.mpr ⟨layer, hlayer, htimeout, hbase, rfl, hs⟩⟩
        · exact .inr (.unusable hlayer (.inr (isLayered_withOverrides layer lookup o)) hs)
      · exact .inr (.unusable hlayer (.inl (isLayered_withVariables layer lookup)) hbase)
  · exact .inr hrefused

theorem not_isRefused_of_resolve (h : resolve files path lookup o = .ok s) :
    ¬IsRefused files path lookup o := by
  obtain ⟨layer, hlayer, htimeout, hbase, rfl, hs⟩ := resolve_eq_ok_iff.mp h
  intro hrefused
  cases hrefused with
  | unreadable hpath htext =>
      subst hpath
      obtain ⟨text, hread, -⟩ := hlayer
      cases htext.symm.trans hread
  | undecodable hpath htext hnone =>
      subst hpath
      obtain ⟨text, hread, hof⟩ := hlayer
      cases htext.symm.trans hread
      exact hnone layer hof
  | timeout hbad => exact htimeout hbad
  | unusable hlayer' hlayered hnot =>
      cases hlayer.unique hlayer'
      rcases hlayered with hlayered | hlayered
      · exact hnot (hlayered.unique (isLayered_withVariables layer lookup) ▸ hbase)
      · exact hnot (hlayered.unique (isLayered_withOverrides layer lookup o) ▸ hs)

/-- Whatever the file, the environment and the command line are, each of the settings of a run is
taken from the first layer that supplies it, in its own way, and all of them together are of use.
There are none exactly if the file cannot be read or supplies no layer, the timeout in the
environment is none, or the settings without or with the command line are of no use. -/
theorem resolve_layered (files : Files) (path : Option String) (lookup : Environment)
    (o : Overrides) :
    (∀ s, resolve files path lookup o = .ok s →
      (∃ layer : Layer, layer.IsFrom files path ∧ IsLayered layer lookup o s) ∧ s.IsUsable) ∧
      ((∃ e, resolve files path lookup o = .error e) ↔ IsRefused files path lookup o) := by
  constructor
  · intro s h
    obtain ⟨layer, hlayer, -, -, rfl, hs⟩ := resolve_eq_ok_iff.mp h
    exact ⟨⟨layer, hlayer, isLayered_withOverrides layer lookup o⟩, hs⟩
  · constructor
    · rintro ⟨e, he⟩
      rcases exists_resolve_or_isRefused files path lookup o with ⟨s, hs⟩ | hrefused
      · cases he.symm.trans hs
      · exact hrefused
    · intro hrefused
      cases h : resolve files path lookup o with
      | error e => exact ⟨e, rfl⟩
      | ok s => exact absurd hrefused (not_isRefused_of_resolve h)

/-- A file may switch validation off, and an empty variable on again; what nothing else supplies is
as in the file. -/
theorem resolve_layered_novalidate :
    let text := "no_validate: true\ntimeout: '1m500ms'\nserver: a:1\n" ++
      "normalize_file_configs: !!bool |-\n  true\nlog: \x7bjson: True, level: info\x7d\n"
    let files : Files := ⟨[("s.yaml", Text.encode text)]⟩
    let lookup : Environment := fun name =>
      if name = "NOVALIDATE" then some "" else if name = "NATS_URL" then some "b:1" else none
    let o : Overrides := { trace := true }
    let s : Settings :=
      { server := "b:1"
        timeout := ⟨60_500_000_000⟩
        normalizeFileConfigs := true
        trace := true
        log := { level := "info", json := true } }
    resolve files (some "s.yaml") lookup o = .ok s ∧
      ∃ layer : Layer, layer.IsFrom files (some "s.yaml") ∧ IsLayered layer lookup o s := by
  intro text files lookup o s
  have hread : resolve files (some "s.yaml") lookup o = .ok s := by decide +kernel
  exact ⟨hread, ((resolve_layered files (some "s.yaml") lookup o).1 s hread).1⟩

end Run

end Settings

end JetStream

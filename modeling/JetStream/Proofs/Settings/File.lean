import JetStream.Proofs.Settings.Values

/-!
# What a settings file supplies

A settings file supplies some of the settings and leaves the others to the layers below it.  The
reader does not tell the two apart, as it fills in the defaults while it reads.  `Layer` does, and
`ofDocument_eq_ok_iff` says that reading a document succeeds exactly if the document supplies some
layer, and then gives the defaults with that layer over them.

## Strategy

A mapping is read entry by entry.  Each field is set to what its own node means and is left alone by
the entries of all other fields (`Reads`), so what the entries come to can be told field by field:
`gives_of_readEntries` goes from a mapping that was read to what stands under one name, and
`exists_readEntries` back from what stands under all names.
-/

namespace JetStream.Settings

open Yaml (Node)

variable {α β : Type} {fields seen : List String} {field name : String}
  {items : List (Node × Node)} {put : String → Node → α → Except Fault α}
  {Means : Node → β → Prop} {π : α → β} {base result : α}

/-! ## What stands under a name -/

/-- The nodes of the entries with a name. -/
def under (name : String) (items : List (Node × Node)) : List Node :=
  (items.filter fun item => item.1.text? == some name).map (·.2)

theorem under_cons_self {key node : Node} (h : key.text? = some name) :
    under name ((key, node) :: items) = node :: under name items := by
  simp [under, h]

theorem under_cons_of_ne {key node : Node} (h : key.text? = some name) (hne : field ≠ name) :
    under field ((key, node) :: items) = under field items := by
  simp [under, h, hne.symm]

theorem under_eq_nil_of_cons {item : Node × Node} (h : under name (item :: items) = []) :
    under name items = [] := by
  simp only [under, List.map_eq_nil_iff, List.filter_eq_nil_iff, List.forall_mem_cons] at h ⊢
  exact h.2

/-- The value is what the only entry under the name means; without an entry there is none. -/
inductive Gives (items : List (Node × Node)) (name : String) (Means : Node → β → Prop) :
    Option β → Prop
  | nothing (h : under name items = []) : Gives items name Means none
  | entry {node : Node} {value : β} (h : under name items = [node]) (hmeans : Means node value) :
      Gives items name Means (some value)

section Gives

variable {value value' : Option β}

theorem Gives.unique (h : Gives items name Means value) (h' : Gives items name Means value')
    (hmeans : ∀ {node value value'}, Means node value → Means node value' → value = value') :
    value = value' := by
  cases h with
  | nothing h =>
      cases h' with
      | nothing => rfl
      | entry h' => exact absurd (h'.symm.trans h) (List.cons_ne_nil _ _)
  | entry h hvalue =>
      cases h' with
      | nothing h' => exact absurd (h.symm.trans h') (List.cons_ne_nil _ _)
      | entry h' hvalue' =>
          cases h.symm.trans h'
          rw [hmeans hvalue hvalue']

theorem Gives.cons_of_ne {key node : Node} (h : Gives items field Means value)
    (hkey : key.text? = some name) (hne : field ≠ name) :
    Gives ((key, node) :: items) field Means value := by
  cases h with
  | nothing h => exact .nothing (by rw [under_cons_of_ne hkey hne, h])
  | entry h hmeans => exact .entry (by rw [under_cons_of_ne hkey hne, h]) hmeans

end Gives

/-! ## Entries, one after the other -/

/-- What one entry does: its name is a text, and if this is a field that was not seen before, the
entry is taken in. -/
theorem readEntries_cons_eq_ok_iff {key node : Node} :
    readEntries fields put seen ((key, node) :: items) base = .ok result ↔
      ∃ name, key.text? = some name ∧
        ((name ∈ fields ∧ name ∉ seen ∧ ∃ next, put name node base = .ok next ∧
            readEntries fields put (name :: seen) items next = .ok result) ∨
          (name ∉ fields ∧ readEntries fields put seen items base = .ok result)) := by
  rw [readEntries, bind_eq_ok_iff]
  refine exists_congr fun name => and_congr (readText_eq_ok_iff.trans text?_eq_some_iff.symm) ?_
  by_cases hfield : name ∈ fields
  · by_cases hseen : name ∈ seen
    · simp [hfield, hseen]
    · simp [hfield, hseen, bind_eq_ok_iff]
  · simp [hfield]

/-- The entry of one field sets `π` to what its node means; no other entry changes that. -/
structure Reads (put : String → Node → α → Except Fault α) (field : String)
    (Means : Node → β → Prop) (π : α → β) : Prop where
  means_of_put : ∀ {node base next}, put field node base = .ok next → Means node (π next)
  put_of_means : ∀ {node value}, Means node value →
    ∀ base, ∃ next, put field node base = .ok next
  frame : ∀ {name node base next}, name ≠ field → put name node base = .ok next →
    π next = π base

theorem Reads.of_sets {read : Node → Except Fault β} {sets : α → β → α}
    (hread : ∀ {node value}, read node = .ok value ↔ Means node value)
    (hput : ∀ node base, put field node base = read node >>= fun value => pure (sets base value))
    (hsets : ∀ base value, π (sets base value) = value)
    (hframe : ∀ {name node base next}, put name node base = .ok next →
      name ≠ field → π next = π base) : Reads put field Means π where
  means_of_put {node base next} h := by
    rw [hput] at h
    obtain ⟨value, hvalue, h⟩ := bind_eq_ok_iff.mp h
    cases h
    rw [hsets]
    exact hread.mp hvalue
  put_of_means {node value} hmeans base :=
    ⟨sets base value, by rw [hput, hread.mpr hmeans]; rfl⟩
  frame hne h := hframe h hne

/-- In a mapping that was read, a field is what stands under its name, and otherwise as it was. -/
theorem gives_of_readEntries (hreads : Reads put field Means π) (hfield : field ∈ fields)
    (h : readEntries fields put seen items base = .ok result) :
    ∃ value, Gives items field Means value ∧ π result = value.getD (π base) ∧
      (field ∈ seen → value = none) := by
  induction items generalizing seen base with
  | nil =>
      cases h
      exact ⟨none, .nothing rfl, rfl, fun _ => rfl⟩
  | cons item items ih =>
      obtain ⟨key, node⟩ := item
      obtain ⟨name, hname, ⟨-, hnew, next, hput, hrest⟩ | ⟨hother, hrest⟩⟩ :=
        readEntries_cons_eq_ok_iff.mp h
      · obtain ⟨value, hgives, hvalue, honce⟩ := ih hrest
        by_cases heq : field = name
        · subst heq
          -- the name is seen now, so nothing more stands under it
          cases honce List.mem_cons_self
          cases hgives with
          | nothing hnothing =>
              refine ⟨some (π next), .entry ?_ (hreads.means_of_put hput), hvalue, ?_⟩
              · rw [under_cons_self hname, hnothing]
              · exact fun hseen => absurd hseen hnew
        · refine ⟨value, hgives.cons_of_ne hname heq, ?_, ?_⟩
          · rw [hvalue, hreads.frame (Ne.symm heq) hput]
          · exact fun hseen => honce (List.mem_cons_of_mem _ hseen)
      · obtain ⟨value, hgives, hvalue, honce⟩ := ih hrest
        have hne : field ≠ name := fun heq => hother (heq ▸ hfield)
        exact ⟨value, hgives.cons_of_ne hname hne, hvalue, honce⟩

theorem exists_name_of_readEntries
    (h : readEntries fields put seen items base = .ok result) :
    ∀ item ∈ items, ∃ name, Says item.1 name := by
  induction items generalizing seen base with
  | nil => simp
  | cons item items ih =>
      obtain ⟨key, node⟩ := item
      obtain ⟨name, hname, ⟨-, -, next, -, hrest⟩ | ⟨-, hrest⟩⟩ := readEntries_cons_eq_ok_iff.mp h
      · exact List.forall_mem_cons.mpr ⟨⟨name, says_of_text? hname⟩, ih hrest⟩
      · exact List.forall_mem_cons.mpr ⟨⟨name, says_of_text? hname⟩, ih hrest⟩

/-- There is at most one entry under the name, and it can be taken in. -/
def IsTaken (put : String → Node → α → Except Fault α) (items : List (Node × Node))
    (field : String) : Prop :=
  under field items = [] ∨
    ∃ node, under field items = [node] ∧ ∀ base, ∃ next, put field node base = .ok next

theorem Gives.isTaken {value : Option β} (h : Gives items field Means value)
    (hreads : Reads put field Means π) : IsTaken put items field := by
  cases h with
  | nothing h => exact .inl h
  | entry h hmeans => exact .inr ⟨_, h, hreads.put_of_means hmeans⟩

/-- The first entry can be taken in, and no other entry has its name. -/
theorem IsTaken.head {key node : Node} (h : IsTaken put ((key, node) :: items) name)
    (hkey : key.text? = some name) :
    under name items = [] ∧ ∀ base, ∃ next, put name node base = .ok next := by
  rcases h with hnothing | ⟨only, honly, hput⟩
  · rw [under_cons_self hkey] at hnothing
    exact absurd hnothing (List.cons_ne_nil _ _)
  · rw [under_cons_self hkey] at honly
    obtain ⟨rfl, hnothing⟩ := List.cons_eq_cons.mp honly
    exact ⟨hnothing, hput⟩

theorem IsTaken.tail {key node : Node} (h : IsTaken put ((key, node) :: items) field)
    (hkey : key.text? = some name) : IsTaken put items field := by
  by_cases heq : field = name
  · subst heq
    exact .inl (h.head hkey).1
  · simpa only [IsTaken, under_cons_of_ne hkey heq] using h

/-- A mapping with texts for names is read if there is nothing wrong under any name. -/
theorem exists_readEntries (hnames : ∀ item ∈ items, ∃ name, Says item.1 name)
    (htaken : ∀ field ∈ fields, IsTaken put items field)
    (hseen : ∀ field ∈ seen, under field items = []) :
    ∃ result, readEntries fields put seen items base = .ok result := by
  induction items generalizing seen base with
  | nil => exact ⟨base, rfl⟩
  | cons item items ih =>
      obtain ⟨key, node⟩ := item
      obtain ⟨⟨name, hsays⟩, hnames⟩ := List.forall_mem_cons.mp hnames
      have hname := text?_eq_some_iff.mpr hsays
      have hrest : ∀ field ∈ fields, IsTaken put items field :=
        fun field hfield => (htaken field hfield).tail hname
      have hold : ∀ field ∈ seen, under field items = [] :=
        fun field hfield => under_eq_nil_of_cons (hseen field hfield)
      by_cases hfield : name ∈ fields
      · obtain ⟨hnothing, hput⟩ := (htaken name hfield).head hname
        obtain ⟨next, hnext⟩ := hput base
        have hnew : name ∉ seen := by
          intro hmem
          have hthere := hseen name hmem
          rw [under_cons_self hname] at hthere
          exact List.cons_ne_nil _ _ hthere
        have hlater : ∃ result, readEntries fields put (name :: seen) items next = .ok result :=
          ih hnames hrest (List.forall_mem_cons.mpr ⟨hnothing, hold⟩)
        obtain ⟨result, hresult⟩ := hlater
        exact ⟨result, readEntries_cons_eq_ok_iff.mpr
          ⟨name, hname, .inl ⟨hfield, hnew, next, hnext, hresult⟩⟩⟩
      · have hlater : ∃ result, readEntries fields put seen items base = .ok result :=
          ih hnames hrest hold
        obtain ⟨result, hresult⟩ := hlater
        exact ⟨result, readEntries_cons_eq_ok_iff.mpr ⟨name, hname, .inr ⟨hfield, hresult⟩⟩⟩

/-! ## The settings for logging -/

/-- What a file supplies about logging. -/
structure LogLayer where
  level : Option String := none
  json : Option Bool := none

namespace LogLayer

/-- What the layer comes to over the defaults. -/
def settings (layer : LogLayer) : LogSettings where
  level := layer.level.getD "warn"
  json := layer.json.getD false

/-- The entries of a mapping supply the layer. -/
structure IsIn (items : List (Node × Node)) (layer : LogLayer) : Prop where
  names : ∀ item ∈ items, ∃ name, Says item.1 name
  level : Gives items "level" Says layer.level
  json : Gives items "json" Spells layer.json

/-- A node supplies the layer. -/
def IsOf (node : Node) (layer : LogLayer) : Prop :=
  ∃ items, Maps node items ∧ layer.IsIn items

theorem IsIn.unique {layer layer' : LogLayer} (h : layer.IsIn items) (h' : layer'.IsIn items) :
    layer = layer' := by
  obtain ⟨level, json⟩ := layer
  obtain ⟨level', json'⟩ := layer'
  have hlevel : level = level' := h.level.unique h'.level Says.unique
  have hjson : json = json' := h.json.unique h'.json Spells.unique
  rw [hlevel, hjson]

theorem IsOf.unique {node : Node} {layer layer' : LogLayer} (h : IsOf node layer)
    (h' : IsOf node layer') : layer = layer' := by
  obtain ⟨items, hitems, hlayer⟩ := h
  obtain ⟨items', hitems', hlayer'⟩ := h'
  cases hitems.unique hitems'
  exact hlayer.unique hlayer'

end LogLayer

/-- An entry for logging leaves alone what has another name. -/
theorem frame_putLog {node : Node} {log next : LogSettings} (h : putLog name node log = .ok next) :
    (name ≠ "level" → next.level = log.level) ∧ (name ≠ "json" → next.json = log.json) := by
  unfold putLog at h
  split at h
  case h_3 =>
    cases h
    exact ⟨fun _ => rfl, fun _ => rfl⟩
  all_goals
    obtain ⟨_, -, h⟩ := bind_eq_ok_iff.mp h
    cases h
    simp

theorem reads_level : Reads putLog "level" Says LogSettings.level :=
  .of_sets readText_eq_ok_iff (fun _ _ => rfl) (fun _ _ => rfl) fun h => (frame_putLog h).1

theorem reads_json : Reads putLog "json" Spells LogSettings.json :=
  .of_sets readBool_eq_ok_iff (fun _ _ => rfl) (fun _ _ => rfl) fun h => (frame_putLog h).2

theorem LogLayer.exists_of_readEntries {log : LogSettings}
    (h : readEntries ["level", "json"] putLog [] items {} = .ok log) :
    ∃ layer : LogLayer, layer.IsIn items ∧ log = layer.settings := by
  obtain ⟨level, hlevel, hlevelIs, -⟩ := gives_of_readEntries reads_level (by decide) h
  obtain ⟨json, hjson, hjsonIs, -⟩ := gives_of_readEntries reads_json (by decide) h
  refine ⟨⟨level, json⟩, ⟨exists_name_of_readEntries h, hlevel, hjson⟩, ?_⟩
  rw [settings, ← hlevelIs, ← hjsonIs]

theorem LogLayer.IsIn.readEntries {layer : LogLayer} (h : layer.IsIn items) :
    readEntries ["level", "json"] putLog [] items {} = .ok layer.settings := by
  have htaken : ∀ field ∈ ["level", "json"], IsTaken putLog items field :=
    List.forall_mem_cons.mpr ⟨h.level.isTaken reads_level,
      List.forall_mem_cons.mpr ⟨h.json.isTaken reads_json, List.forall_mem_nil _⟩⟩
  obtain ⟨log, hlog⟩ := exists_readEntries h.names htaken (List.forall_mem_nil _)
  obtain ⟨layer', hlayer', rfl⟩ := exists_of_readEntries hlog
  rw [hlog, h.unique hlayer']

/-! ## All settings -/

/-- What a file supplies. -/
structure Layer where
  server : Option String := none
  timeout : Option Duration := none
  noValidate : Option Bool := none
  normalizeFileConfigs : Option Bool := none
  trace : Option Bool := none
  log : Option LogLayer := none

namespace Layer

/-- What the layer comes to over the defaults. -/
def settings (layer : Layer) : Settings where
  server := layer.server.getD "nats://127.0.0.1:4222"
  timeout := layer.timeout.getD (.ofSeconds 5)
  noValidate := layer.noValidate.getD false
  normalizeFileConfigs := layer.normalizeFileConfigs.getD false
  trace := layer.trace.getD false
  log := (layer.log.map LogLayer.settings).getD {}

theorem level_settings (layer : Layer) :
    layer.settings.log.level = (layer.log.bind (·.level)).getD "warn" := by
  unfold settings
  cases layer.log with
  | none => rfl
  | some log => rfl

theorem json_settings (layer : Layer) :
    layer.settings.log.json = (layer.log.bind (·.json)).getD false := by
  unfold settings
  cases layer.log with
  | none => rfl
  | some log => rfl

/-- The entries of a mapping supply the layer. -/
structure IsIn (items : List (Node × Node)) (layer : Layer) : Prop where
  names : ∀ item ∈ items, ∃ name, Says item.1 name
  server : Gives items "server" Says layer.server
  timeout : Gives items "timeout" SaysDuration layer.timeout
  noValidate : Gives items "no_validate" Spells layer.noValidate
  normalizeFileConfigs : Gives items "normalize_file_configs" Spells layer.normalizeFileConfigs
  trace : Gives items "trace" Spells layer.trace
  log : Gives items "log" LogLayer.IsOf layer.log

/-- A document supplies the layer; one without content supplies nothing. -/
def IsOf (document : Yaml.Document) (layer : Layer) : Prop :=
  document.isComplete = true ∧
    match document.root with
    | some root => ∃ items, Maps root items ∧ layer.IsIn items
    | none => layer = {}

end Layer

/-- An entry leaves alone what has another name. -/
theorem frame_put {node : Node} {s next : Settings} (h : Settings.put name node s = .ok next) :
    (name ≠ "server" → next.server = s.server) ∧
      (name ≠ "timeout" → next.timeout = s.timeout) ∧
      (name ≠ "no_validate" → next.noValidate = s.noValidate) ∧
      (name ≠ "normalize_file_configs" → next.normalizeFileConfigs = s.normalizeFileConfigs) ∧
      (name ≠ "trace" → next.trace = s.trace) ∧
      (name ≠ "log" → next.log = s.log) := by
  unfold Settings.put at h
  split at h
  case h_7 =>
    cases h
    simp
  all_goals
    obtain ⟨_, -, h⟩ := bind_eq_ok_iff.mp h
    cases h
    simp

theorem reads_server : Reads Settings.put "server" Says Settings.server :=
  .of_sets readText_eq_ok_iff (fun _ _ => rfl) (fun _ _ => rfl) fun h => (frame_put h).1

theorem reads_timeout : Reads Settings.put "timeout" SaysDuration Settings.timeout :=
  .of_sets readTimeout_eq_ok_iff (fun _ _ => rfl) (fun _ _ => rfl) fun h => (frame_put h).2.1

theorem reads_noValidate : Reads Settings.put "no_validate" Spells Settings.noValidate :=
  .of_sets readBool_eq_ok_iff (fun _ _ => rfl) (fun _ _ => rfl) fun h => (frame_put h).2.2.1

theorem reads_normalizeFileConfigs :
    Reads Settings.put "normalize_file_configs" Spells Settings.normalizeFileConfigs :=
  .of_sets readBool_eq_ok_iff (fun _ _ => rfl) (fun _ _ => rfl) fun h => (frame_put h).2.2.2.1

theorem reads_trace : Reads Settings.put "trace" Spells Settings.trace :=
  .of_sets readBool_eq_ok_iff (fun _ _ => rfl) (fun _ _ => rfl) fun h => (frame_put h).2.2.2.2.1

/-- The node supplies a layer that comes to the settings for logging. -/
def SaysLog (node : Node) (log : LogSettings) : Prop :=
  ∃ layer, LogLayer.IsOf node layer ∧ log = layer.settings

theorem readLog_eq_ok_iff {node : Node} {log : LogSettings} :
    readLog node = .ok log ↔ SaysLog node log := by
  rw [readLog, bind_eq_ok_iff]
  constructor
  · rintro ⟨items, hitems, hread⟩
    obtain ⟨layer, hlayer, hlog⟩ := LogLayer.exists_of_readEntries hread
    exact ⟨layer, ⟨items, entries_eq_ok_iff.mp hitems, hlayer⟩, hlog⟩
  · rintro ⟨layer, ⟨items, hitems, hlayer⟩, rfl⟩
    exact ⟨items, entries_eq_ok_iff.mpr hitems, hlayer.readEntries⟩

theorem reads_log : Reads Settings.put "log" SaysLog Settings.log :=
  .of_sets readLog_eq_ok_iff (fun _ _ => rfl) (fun _ _ => rfl) fun h => (frame_put h).2.2.2.2.2

theorem gives_log_iff {log : Option LogSettings} :
    Gives items "log" SaysLog log ↔
      ∃ layer, Gives items "log" LogLayer.IsOf layer ∧ log = layer.map LogLayer.settings := by
  constructor
  · intro h
    cases h with
    | nothing h => exact ⟨none, .nothing h, rfl⟩
    | entry h hsays =>
        obtain ⟨layer, hlayer, rfl⟩ := hsays
        exact ⟨some layer, .entry h hlayer, rfl⟩
  · rintro ⟨layer, h, rfl⟩
    cases h with
    | nothing h => exact .nothing h
    | entry h hlayer => exact .entry h ⟨_, hlayer, rfl⟩

namespace Layer

theorem IsIn.unique {layer layer' : Layer} (h : layer.IsIn items) (h' : layer'.IsIn items) :
    layer = layer' := by
  obtain ⟨server, timeout, noValidate, normalizeFileConfigs, trace, log⟩ := layer
  obtain ⟨server', timeout', noValidate', normalizeFileConfigs', trace', log'⟩ := layer'
  have hserver : server = server' := h.server.unique h'.server Says.unique
  have htimeout : timeout = timeout' := h.timeout.unique h'.timeout SaysDuration.unique
  have hnoValidate : noValidate = noValidate' := h.noValidate.unique h'.noValidate Spells.unique
  have hnormalize : normalizeFileConfigs = normalizeFileConfigs' :=
    h.normalizeFileConfigs.unique h'.normalizeFileConfigs Spells.unique
  have htrace : trace = trace' := h.trace.unique h'.trace Spells.unique
  have hlog : log = log' := h.log.unique h'.log LogLayer.IsOf.unique
  rw [hserver, htimeout, hnoValidate, hnormalize, htrace, hlog]

theorem IsOf.unique {document : Yaml.Document} {layer layer' : Layer} (h : layer.IsOf document)
    (h' : layer'.IsOf document) : layer = layer' := by
  obtain ⟨-, h⟩ := h
  obtain ⟨-, h'⟩ := h'
  cases hroot : document.root with
  | none =>
      simp only [hroot] at h h'
      rw [h, h']
  | some root =>
      simp only [hroot] at h h'
      obtain ⟨items, hitems, hlayer⟩ := h
      obtain ⟨items', hitems', hlayer'⟩ := h'
      cases hitems.unique hitems'
      exact hlayer.unique hlayer'

theorem exists_of_readEntries {s : Settings}
    (h : readEntries Settings.fields Settings.put [] items {} = .ok s) :
    ∃ layer : Layer, layer.IsIn items ∧ s = layer.settings := by
  obtain ⟨server, hserver, hserverIs, -⟩ := gives_of_readEntries reads_server (by decide) h
  obtain ⟨timeout, htimeout, htimeoutIs, -⟩ := gives_of_readEntries reads_timeout (by decide) h
  obtain ⟨noValidate, hnoValidate, hnoValidateIs, -⟩ :=
    gives_of_readEntries reads_noValidate (by decide) h
  obtain ⟨normalize, hnormalize, hnormalizeIs, -⟩ :=
    gives_of_readEntries reads_normalizeFileConfigs (by decide) h
  obtain ⟨trace, htrace, htraceIs, -⟩ := gives_of_readEntries reads_trace (by decide) h
  obtain ⟨log, hlog, hlogIs, -⟩ := gives_of_readEntries reads_log (by decide) h
  obtain ⟨logLayer, hlogLayer, rfl⟩ := gives_log_iff.mp hlog
  refine ⟨⟨server, timeout, noValidate, normalize, trace, logLayer⟩,
    ⟨exists_name_of_readEntries h, hserver, htimeout, hnoValidate, hnormalize, htrace,
      hlogLayer⟩, ?_⟩
  rw [settings, ← hserverIs, ← htimeoutIs, ← hnoValidateIs, ← hnormalizeIs, ← htraceIs, ← hlogIs]

theorem IsIn.readEntries {layer : Layer} (h : layer.IsIn items) :
    readEntries Settings.fields Settings.put [] items {} = .ok layer.settings := by
  have htaken : ∀ field ∈ Settings.fields, IsTaken Settings.put items field := by
    simp only [Settings.fields, List.forall_mem_cons]
    exact ⟨h.server.isTaken reads_server, h.timeout.isTaken reads_timeout,
      h.noValidate.isTaken reads_noValidate,
      h.normalizeFileConfigs.isTaken reads_normalizeFileConfigs, h.trace.isTaken reads_trace,
      (gives_log_iff.mpr ⟨_, h.log, rfl⟩).isTaken reads_log, List.forall_mem_nil _⟩
  obtain ⟨s, hs⟩ := exists_readEntries h.names htaken (List.forall_mem_nil _)
  -- whatever was read is a layer that the entries supply, and they supply no other one
  obtain ⟨layer', hlayer', rfl⟩ := exists_of_readEntries hs
  rw [hs, h.unique hlayer']

end Layer

/-! ## Documents and files -/

/-- A document is read exactly if it supplies some layer, and then as the defaults with the layer
over them. -/
theorem ofDocument_eq_ok_iff {document : Yaml.Document} {s : Settings} :
    ofDocument document = .ok s ↔ ∃ layer : Layer, layer.IsOf document ∧ s = layer.settings := by
  unfold ofDocument Layer.IsOf
  by_cases hcomplete : document.isComplete = true
  · simp only [hcomplete, if_true, true_and]
    cases document.root with
    | none =>
        simp only [bind_eq_ok_iff, Except.ok.injEq, exists_eq_left, exists_eq_right]
        exact eq_comm
    | some root =>
        simp only [bind_eq_ok_iff, Except.ok.injEq, exists_eq_right]
        constructor
        · rintro ⟨items, hitems, hread⟩
          obtain ⟨layer, hlayer, hs⟩ := Layer.exists_of_readEntries hread
          exact ⟨layer, ⟨items, entries_eq_ok_iff.mp hitems, hlayer⟩, hs⟩
        · rintro ⟨layer, ⟨items, hitems, hlayer⟩, rfl⟩
          exact ⟨items, entries_eq_ok_iff.mpr hitems, hlayer.readEntries⟩
  · cases document.root with
    | none => simp [hcomplete, bind_eq_ok_iff]
    | some root => simp [hcomplete, bind_eq_ok_iff]

/-- A file supplies the layer; without a file nothing is supplied. -/
def Layer.IsFrom (files : Files) (path : Option String) (layer : Layer) : Prop :=
  match path with
  | some path => ∃ text, files.readText path = .ok text ∧ layer.IsOf (Yaml.Document.read text)
  | none => layer = {}

theorem ofFile_eq_ok_iff {files : Files} {path : String} {s : Settings} :
    ofFile files path = .ok s ↔
      ∃ layer : Layer, layer.IsFrom files (some path) ∧ s = layer.settings := by
  unfold ofFile Layer.IsFrom
  cases htext : files.readText path with
  | error fault => simp [htext]
  | ok text => simp [htext, mapError_eq_ok_iff, parse, ofDocument_eq_ok_iff]

theorem Layer.IsFrom.unique {files : Files} {path : Option String} {layer layer' : Layer}
    (h : layer.IsFrom files path) (h' : layer'.IsFrom files path) : layer = layer' := by
  cases path with
  | none => exact Eq.trans h (Eq.symm h')
  | some path =>
      obtain ⟨text, htext, hlayer⟩ := h
      obtain ⟨text', htext', hlayer'⟩ := h'
      cases htext.symm.trans htext'
      exact hlayer.unique hlayer'

end JetStream.Settings

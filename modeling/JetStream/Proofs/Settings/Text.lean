import JetStream.Proofs.Settings.Layers
import JetStream.Proofs.Settings.Timeout
import JetStream.Proofs.Yaml.Entries

/-!
# Settings read back from their text

Whatever the texts among the settings are, their own text is read as a settings file that supplies
every field.  All of them come back as they were but the timeout, which comes back as what its text
denotes: it loses what is below a millisecond, and settings whose timeout is shorter than that are
of no use any more.
-/

namespace JetStream.Yaml

theorem toList_entryText (indent : Nat) (name value : String) :
    (entryText indent name value).toList = indentation indent ++ (name.toList ++
      (':' :: ' ' :: (value.toList ++ closingBreak value.toList))) := by
  unfold entryText closingBreak
  cases endsLine value.toList <;> simp

theorem standsFor_boolText (base : Nat) (b : Bool) :
    StandsFor base (boolText b).toList ⟨boolText b, .plain⟩ := by
  have hplain : IsPlain (boolText b).toList := by
    cases b <;> exact .of_word (by decide) (by decide)
  have hstart : startsPlain false (boolText b).toList = true := by cases b <;> decide
  have hmark : '\uFEFF' ∉ (boolText b).toList := by cases b <;> decide
  have hstands := @standsFor_plain base (boolText b).toList hplain hstart hmark
  rwa [String.ofList_toList] at hstands

theorem isWritten_boolText (b : Bool) : IsWritten (boolText b).toList := by
  have hwritable : (boolText b).toList.all isWritable = true := by cases b <;> decide
  exact fun c hc => List.all_eq_true.mp hwritable c hc

end JetStream.Yaml

namespace JetStream.Settings

open Yaml

/-- An entry with a scalar for its value. -/
def scalarEntry (name written : String) (value : Scalar) : Entry :=
  ⟨name.toList, written.toList, value⟩

/-- The entries of settings, with how each text is written. -/
def plainEntries (s : Settings) (server timeout : ScalarStyle) : List Entry :=
  [scalarEntry "server" (scalarText 2 s.server) ⟨s.server, server⟩,
    scalarEntry "timeout" (scalarText 2 (timeoutText s.timeout)) ⟨timeoutText s.timeout, timeout⟩,
    scalarEntry "no_validate" (boolText s.noValidate) ⟨boolText s.noValidate, .plain⟩,
    scalarEntry "normalize_file_configs" (boolText s.normalizeFileConfigs)
      ⟨boolText s.normalizeFileConfigs, .plain⟩,
    scalarEntry "trace" (boolText s.trace) ⟨boolText s.trace, .plain⟩]

/-- The entries of the settings for logging. -/
def logEntries (log : LogSettings) (level : ScalarStyle) : List Entry :=
  [scalarEntry "level" (scalarText 4 log.level) ⟨log.level, level⟩,
    scalarEntry "json" (boolText log.json) ⟨boolText log.json, .plain⟩]

theorem toList_text (s : Settings) (server timeout level : ScalarStyle) :
    (firstLine 0 (sectionLine "log".toList 2 (logEntries s.log level))
      (plainEntries s server timeout)).text = s.text.toList := by
  simp [text, toList_entryText, plainEntries, logEntries, scalarEntry, firstLine, sectionLine,
    Line.chars, nextLine, indentation]

/-- The fields of settings, and those of the settings for logging, have names of few letters. -/
theorem isName_of_mem_fields {name : String} (h : name ∈ fields ++ ["level", "json"]) :
    IsName name.toList ∧ name.toList.length ≤ 1024 := by
  have hall : (fields ++ ["level", "json"]).all (fun name => !name.toList.isEmpty &&
      name.toList.all (fun c => c.isLower || c = '_') && name.toList.length ≤ 1024) = true := by
    decide
  have hname := List.all_eq_true.mp hall name h
  simp only [Bool.and_eq_true, Bool.not_eq_true', List.isEmpty_eq_false_iff,
    decide_eq_true_eq] at hname
  exact ⟨.of_all hname.1.1 hname.1.2, hname.2⟩

theorem isRead_scalarEntry {base : Nat} {name written : String} {value : Scalar}
    (hname : name ∈ fields ++ ["level", "json"]) (hstands : StandsFor base written.toList value)
    (hwritten : IsWritten written.toList) : (scalarEntry name written value).IsRead base :=
  ⟨(isName_of_mem_fields hname).1, (isName_of_mem_fields hname).2, hstands, hwritten⟩

theorem isRead_boolEntry {base : Nat} {name : String} (b : Bool)
    (hname : name ∈ fields ++ ["level", "json"]) :
    (scalarEntry name (boolText b) ⟨boolText b, .plain⟩).IsRead base :=
  isRead_scalarEntry hname (standsFor_boolText base b) (isWritten_boolText b)

/-- The text of settings is read as a document with all of them. -/
theorem read_text (s : Settings) :
    ∃ server timeout level, Document.read s.text =
      ⟨some (sectionedNode (plainEntries s server timeout) "log".toList (logEntries s.log level)),
        true⟩ := by
  obtain ⟨server, hserver⟩ := standsFor_scalarText 0 s.server
  obtain ⟨timeout, htimeout⟩ := standsFor_scalarText 0 (timeoutText s.timeout)
  obtain ⟨level, hlevel⟩ := standsFor_scalarText 2 s.log.level
  obtain ⟨hlog, hlength⟩ := @isName_of_mem_fields "log" (by decide)
  refine ⟨server, timeout, level, Document.read_of_entries ?_ hlog hlength (by decide) ?_
    (toList_text s server timeout level)⟩
  · simp only [List.forall_mem_cons]
    exact ⟨isRead_scalarEntry (by decide) hserver (isWritten_scalarText _ _),
      isRead_scalarEntry (by decide) htimeout (isWritten_scalarText _ _),
      isRead_boolEntry _ (by decide), isRead_boolEntry _ (by decide),
      isRead_boolEntry _ (by decide), List.forall_mem_nil _⟩
  · simp only [List.forall_mem_cons]
    exact ⟨isRead_scalarEntry (by decide) hlevel (isWritten_scalarText _ _),
      isRead_boolEntry _ (by decide), List.forall_mem_nil _⟩

/-! ## The settings that are read -/

theorem readBool_boolText (b : Bool) : readBool (.scalar ⟨boolText b, .plain⟩) = .ok b := by
  cases b <;> rfl

/-- Settings come back from their text with the timeout that its text denotes. -/
theorem parse_text (s : Settings) :
    parse s.text = ((Duration.parse (timeoutText s.timeout)).mapError Fault.timeout).map
      fun timeout => { s with timeout } := by
  obtain ⟨server, timeout, level, hread⟩ := read_text s
  have hlog : readLog (.mapping ((logEntries s.log level).map Entry.node)) = .ok s.log := by
    simp [readLog, entries, Node.untagged, logEntries, scalarEntry, Entry.node, readEntries,
      readText, Node.text?, putLog, readBool_boolText, bind, Except.bind, pure, Except.pure]
  rw [parse, hread, ofDocument]
  -- Each entry puts its own field; only the text of the timeout can be refused.
  cases htimeout : Duration.parse (timeoutText s.timeout) <;>
    simp [sectionedNode, entries, Node.untagged, plainEntries, scalarEntry, Entry.node, readEntries,
      fields, put, readText, Node.text?, readTimeout, readBool_boolText, hlog, htimeout,
      Except.mapError, Except.map, bind, Except.bind, pure, Except.pure]

/-- Settings that are of use stay so while there is time for an answer. -/
theorem validate_withTimeout {s : Settings} (h : s.validate = .ok ()) (timeout : Duration) :
    ({ s with timeout } : Settings).validate =
      if timeout.isZero then .error (.config Problem.zeroTimeout.message) else .ok () := by
  have husable := validate_eq_ok_iff.mp h
  split
  · rename_i hzero
    have hserver : (Text.trim s.server).isEmpty = false := by
      rw [Bool.eq_false_iff, ne_eq, Text.isEmpty_trim_iff]
      obtain ⟨c, hc, hblank⟩ := husable.server
      exact fun hall => Bool.false_ne_true (hblank.symm.trans (hall c hc))
    simp [validate, problem?, hserver, hzero]
  · rename_i htime
    have hpos : 0 < timeout.nanoseconds :=
      Nat.pos_of_ne_zero fun hzero => htime (by simpa [Duration.isZero] using hzero)
    exact validate_eq_ok_iff.mpr ⟨husable.server, hpos, husable.level⟩

theorem withTimeout_eq_self_iff (s : Settings) (timeout : Duration) :
    ({ s with timeout } : Settings) = s ↔ timeout = s.timeout :=
  ⟨fun h => congrArg Settings.timeout h, fun h => h ▸ rfl⟩

/-- The timeout that comes back is the seconds that are written, unless they are out of range. -/
theorem parse_text_writtenSeconds (s : Settings) :
    parse s.text =
      (Duration.ofBinarySeconds? (writtenSeconds s.timeout)).elim
        (.error (.timeout (.outOfRange (timeoutText s.timeout))))
        fun timeout => .ok { s with timeout } := by
  rw [parse_text, parse_timeoutText]
  cases Duration.ofBinarySeconds? (writtenSeconds s.timeout) <;> rfl

theorem parse_text_eq_self_iff_of_whole {s : Settings} (h : s.timeout.subsecond = 0) :
    parse s.text = .ok s ↔
      s.timeout.seconds < 2 ^ 64 ∧ Binary64.IsBinary s.timeout.seconds := by
  have hsame : (⟨s.timeout.seconds * 1_000_000_000⟩ : Duration) = s.timeout := by
    conv_rhs => rw [← s.timeout.ofParts_seconds_subsecond, h, Duration.ofParts, Nat.add_zero]
  rw [← Duration.ofBinarySeconds?_ofNat_iff, hsame, parse_text_writtenSeconds, writtenSeconds,
    if_pos h]
  cases Duration.ofBinarySeconds? (Binary64.ofNat s.timeout.seconds) with
  | none => simp
  | some timeout =>
      rw [Option.elim_some, Except.ok.injEq, withTimeout_eq_self_iff, Option.some.injEq]

theorem parse_text_of_lt {s : Settings} (h : s.timeout.seconds < 2 ^ 21) :
    parse s.text = .ok { s with timeout := .ofMilliseconds s.timeout.milliseconds } := by
  rw [parse_text, parse_timeoutText_of_lt h]
  rfl

theorem parse_text_eq_self_iff_of_lt {s : Settings} (h : s.timeout.seconds < 2 ^ 21) :
    parse s.text = .ok s ↔ 1_000_000 ∣ s.timeout.nanoseconds := by
  rw [parse_text_of_lt h, Except.ok.injEq, withTimeout_eq_self_iff]
  exact Duration.ofMilliseconds_milliseconds_iff s.timeout

theorem validate_of_parse_text {s back : Settings} (h : s.validate = .ok ())
    (hback : parse s.text = .ok back) :
    back.validate =
      if back.timeout.isZero then .error (.config Problem.zeroTimeout.message) else .ok () := by
  rw [parse_text_writtenSeconds] at hback
  cases htimeout : Duration.ofBinarySeconds? (writtenSeconds s.timeout) with
  | none =>
      rw [htimeout] at hback
      cases hback
  | some timeout =>
      rw [htimeout] at hback
      obtain rfl := Except.ok.inj hback
      exact validate_withTimeout h timeout

/-- Settings that are of use come back from their text with a timeout of the seconds that are
written, unless these are out of range.  Whole seconds come back if they are a binary64 number.
Other timeouts, up to three weeks and more, are cut to whole milliseconds, so just those that have
no more come back; a timeout that is cut to nothing makes the settings unusable. -/
theorem parse_text_exact {s : Settings} (h : s.validate = .ok ()) :
    (parse s.text =
      (Duration.ofBinarySeconds? (writtenSeconds s.timeout)).elim
        (.error (.timeout (.outOfRange (timeoutText s.timeout))))
        fun timeout => .ok { s with timeout }) ∧
    (s.timeout.subsecond = 0 →
      (parse s.text = .ok s ↔
        s.timeout.seconds < 2 ^ 64 ∧ Binary64.IsBinary s.timeout.seconds)) ∧
    (s.timeout.seconds < 2 ^ 21 →
      parse s.text = .ok { s with timeout := .ofMilliseconds s.timeout.milliseconds } ∧
      (parse s.text = .ok s ↔ 1_000_000 ∣ s.timeout.nanoseconds)) ∧
    ∀ back, parse s.text = .ok back →
      back.validate =
        if back.timeout.isZero then .error (.config Problem.zeroTimeout.message) else .ok () :=
  ⟨parse_text_writtenSeconds s, parse_text_eq_self_iff_of_whole,
    fun hshort => ⟨parse_text_of_lt hshort, parse_text_eq_self_iff_of_lt hshort⟩,
    fun _ => validate_of_parse_text h⟩

/-- Half a millisecond is time for an answer, and none once it was written. -/
theorem parse_text_exact_halfMillisecond :
    ({ timeout := ⟨500_000⟩ } : Settings).validate = .ok () ∧
      parse ({ timeout := ⟨500_000⟩ } : Settings).text = .ok { timeout := ⟨0⟩ } ∧
      ({ timeout := ⟨0⟩ } : Settings).validate =
        .error (.config "timeout must be greater than 0") := by
  have hvalid : ({ timeout := ⟨500_000⟩ } : Settings).validate = .ok () := by decide
  obtain ⟨-, -, hshort, hagain⟩ := parse_text_exact hvalid
  obtain ⟨hcut, -⟩ := hshort (by decide)
  exact ⟨hvalid, hcut, hagain _ hcut⟩

end JetStream.Settings

import JetStream.Proofs.Error.Context
import JetStream.Settings.File

/-!
# What the nodes of a settings file say

A setting is a text, a truth value or a duration, and the settings for logging are a mapping.  For
each of these there is a relation between nodes and values that says what YAML means by the node,
and the reader of the model finds exactly the value that is related to its node.

A tag makes no difference, but for a truth value in a literal block: it counts as one only under the
tag of truth values, as otherwise the block would be a text.
-/

namespace JetStream.Settings

open Yaml (Node)

/-! ## Texts -/

/-- The node is a scalar with the text, written in any way and with any tag. -/
inductive Says : Node → String → Prop
  | scalar (s : Yaml.Scalar) : Says (.scalar s) s.text
  | tagged {tag : String} {node : Node} {text : String} (h : Says node text) :
      Says (.tagged tag node) text

theorem says_of_text? {text : String} : ∀ {node : Node}, node.text? = some text → Says node text
  | .scalar s, h => by
      cases h
      exact .scalar s
  | .tagged _ _, h => .tagged (says_of_text? h)
  | .sequence _, h | .mapping _, h => by cases h

theorem text?_eq_some_iff {node : Node} {text : String} :
    node.text? = some text ↔ Says node text := by
  constructor
  · exact says_of_text?
  · intro h
    induction h with
    | scalar s => rfl
    | tagged _ ih => exact ih

theorem readText_eq_ok_iff {node : Node} {text : String} :
    readText node = .ok text ↔ Says node text := by
  rw [← text?_eq_some_iff]
  unfold readText
  cases node.text? with
  | none => exact ⟨nofun, nofun⟩
  | some given => simp

theorem Says.unique {node : Node} {text text' : String} (h : Says node text)
    (h' : Says node text') : text = text' :=
  Option.some.inj ((text?_eq_some_iff.mpr h).symm.trans (text?_eq_some_iff.mpr h'))

/-! ## Truth values -/

/-- How a truth value is spelled. -/
def spellings : Bool → List String
  | true => ["true", "True", "TRUE"]
  | false => ["false", "False", "FALSE"]

/-- The node spells the truth value, as a plain scalar or as a literal block with the tag of truth
values. -/
inductive Spells : Node → Bool → Prop
  | plain {text : String} {value : Bool} (h : text ∈ spellings value) :
      Spells (.scalar ⟨text, .plain⟩) value
  | literal {text : String} {value : Bool} (h : text ∈ spellings value) :
      Spells (.tagged "tag:yaml.org,2002:bool" (.scalar ⟨text, .literal⟩)) value
  | tagged {tag : String} {node : Node} {value : Bool} (h : Spells node value) :
      Spells (.tagged tag node) value

theorem bool?_eq_some_iff {text : String} {value : Bool} :
    Yaml.bool? text = some value ↔ text ∈ spellings value := by
  have hnotBoth : text ∈ spellings true → text ∉ spellings false := by
    intro htrue hfalse
    simp only [spellings, List.mem_cons, List.not_mem_nil, or_false] at htrue hfalse
    rcases htrue with rfl | rfl | rfl <;> simp at hfalse
  have hread : Yaml.bool? text =
      if text ∈ spellings true then some true
      else if text ∈ spellings false then some false
      else none := by
    simp [Yaml.bool?, spellings]
  rw [hread]
  by_cases htrue : text ∈ spellings true
  · cases value with
    | true => simp [htrue]
    | false => simp [htrue, hnotBoth htrue]
  · cases value with
    | true => simp [htrue]
    | false => simp [htrue]

theorem spells_of_truthText? {text : String} {value : Bool} (hmem : text ∈ spellings value) :
    ∀ {node : Node}, truthText? node = some text → Spells node value
  | .scalar ⟨_, style⟩, h => by
      obtain ⟨rfl, h⟩ := Option.ite_none_right_eq_some.mp h
      cases h
      exact .plain hmem
  | .tagged tag (.scalar ⟨_, style⟩), h => by
      obtain ⟨hstyle, h⟩ := Option.ite_none_right_eq_some.mp h
      cases h
      rcases hstyle with rfl | ⟨rfl, rfl⟩
      · exact .tagged (.plain hmem)
      · exact .literal hmem
  | .tagged _ (.tagged tag node), h => .tagged (spells_of_truthText? hmem h)
  | .tagged _ (.sequence _), h | .tagged _ (.mapping _), h => by cases h
  | .sequence _, h | .mapping _, h => by cases h

theorem spells_iff {node : Node} {value : Bool} :
    Spells node value ↔ ∃ text, truthText? node = some text ∧ text ∈ spellings value := by
  constructor
  · intro h
    induction h with
    | plain h => exact ⟨_, rfl, h⟩
    | literal h => exact ⟨_, rfl, h⟩
    | tagged h ih =>
        obtain ⟨text, htext, hmem⟩ := ih
        refine ⟨text, ?_, hmem⟩
        -- a tag adds to what may spell a truth value and takes nothing away
        cases h with
        | plain h => exact htext
        | literal h => exact htext
        | tagged h => exact htext
  · rintro ⟨text, htext, hmem⟩
    exact spells_of_truthText? hmem htext

theorem readBool_eq_ok_iff {node : Node} {value : Bool} :
    readBool node = .ok value ↔ Spells node value := by
  simp only [spells_iff, ← bool?_eq_some_iff, ← Option.bind_eq_some_iff]
  unfold readBool
  cases (truthText? node).bind Yaml.bool? with
  | none => exact ⟨nofun, nofun⟩
  | some given => simp

theorem Spells.unique {node : Node} {value value' : Bool} (h : Spells node value)
    (h' : Spells node value') : value = value' :=
  Except.ok.inj ((readBool_eq_ok_iff.mpr h).symm.trans (readBool_eq_ok_iff.mpr h'))

/-! ## Durations -/

/-- The text of the node denotes the duration. -/
def SaysDuration (node : Node) (d : Duration) : Prop :=
  ∃ text, Says node text ∧ Duration.parse text = .ok d

theorem readTimeout_eq_ok_iff {node : Node} {d : Duration} :
    readTimeout node = .ok d ↔ SaysDuration node d := by
  rw [readTimeout, bind_eq_ok_iff]
  exact exists_congr fun text => and_congr readText_eq_ok_iff mapError_eq_ok_iff

theorem SaysDuration.unique {node : Node} {d d' : Duration} (h : SaysDuration node d)
    (h' : SaysDuration node d') : d = d' :=
  Except.ok.inj ((readTimeout_eq_ok_iff.mpr h).symm.trans (readTimeout_eq_ok_iff.mpr h'))

/-! ## Mappings -/

/-- The node is a mapping with the entries, in their order.  Nothing at all is one without any. -/
inductive Maps : Node → List (Node × Node) → Prop
  | mapping (items : List (Node × Node)) : Maps (.mapping items) items
  | nothing : Maps (.scalar ⟨"", .plain⟩) []
  | tagged {tag : String} {node : Node} {items : List (Node × Node)} (h : Maps node items) :
      Maps (.tagged tag node) items

theorem maps_of_entries {items : List (Node × Node)} :
    ∀ {node : Node}, entries node = .ok items → Maps node items
  | .mapping _, h => by
      cases h
      exact .mapping items
  | .tagged _ _, h => .tagged (maps_of_entries h)
  | .scalar ⟨text, style⟩, h => by
      unfold entries at h
      split at h
      case h_1 heq => cases heq
      case h_2 heq =>
        cases heq
        cases h
        exact .nothing
      case h_3 => cases h
  | .sequence _, h => by cases h

theorem entries_eq_ok_iff {node : Node} {items : List (Node × Node)} :
    entries node = .ok items ↔ Maps node items := by
  constructor
  · exact maps_of_entries
  · intro h
    induction h with
    | mapping items => rfl
    | nothing => rfl
    | tagged _ ih => exact ih

theorem Maps.unique {node : Node} {items items' : List (Node × Node)} (h : Maps node items)
    (h' : Maps node items') : items = items' :=
  Except.ok.inj ((entries_eq_ok_iff.mpr h).symm.trans (entries_eq_ok_iff.mpr h'))

end JetStream.Settings

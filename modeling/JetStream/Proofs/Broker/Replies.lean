import JetStream.Broker.Api
import JetStream.Proofs.Json.Record
import JetStream.Proofs.Text.Decimal
import JetStream.Proofs.Text.Utf8
import Mathlib.Logic.ExistsUnique

/-!
# What a reply says

A reply is an answer, a refusal with a code, or neither: no text in JSON, an error without a code,
or data that do not fit the request.  Each payload is one of them and no other, and what the caller
gets tells which: no two different verdicts come to the same result.

## Strategy

* `Refusal.IsWrittenAs` and `IsDone` say what the data of a refusal and of a success look like, and
  the readers are these relations (`Refusal.ofJson?_eq_some_iff`, `readSuccess_eq_some_iff`).
* `HasVerdict` sorts the payloads, one constructor for each way in which a reply can go.
* `Verdict.outcome_injective`: the text of a refusal has its code between the last blank and the
  last bracket, so it gives away the code and the description.
-/

namespace JetStream.Broker.Api

open Text (Bytes)

/-! ## The data of a refusal -/

/-- A code of 16 bits, and a description that may be missing. -/
structure Refusal.IsWrittenAs (r : Refusal) (value : Json) : Prop where
  isRecord : value.IsRecord 2
  code : value.field? "code" 0 = some (.integer r.code)
  code_le : r.code ≤ 65535
  description :
    value.field? "description" 1 = some (.string r.description) ∨
      value.field? "description" 1 = none ∧ r.description = ""

theorem Refusal.ofJson?_eq_some_iff {value : Json} {r : Refusal} :
    ofJson? value = some r ↔ r.IsWrittenAs value := by
  have hread {fields : Json.Record}
      (h : Json.Record.ofJson? ["code", "description"] value = some fields) :
      (fields.require "code" (Json.asUnsigned? maxCode) = some r.code ↔
        value.field? "code" 0 = some (.integer r.code) ∧ r.code ≤ 65535) ∧
      (fields.read "description" "" Json.asString? = some r.description ↔
        value.field? "description" 1 = some (.string r.description) ∨
          value.field? "description" 1 = none ∧ r.description = "") := by
    rw [← Json.Record.get?_of_ofJson? (by decide) rfl h,
      ← Json.Record.get?_of_ofJson? (by decide) rfl h, Json.Record.require,
      Json.Record.read_eq_some_iff]
    simp only [Option.bind_eq_some_iff, Json.asUnsigned?_eq_some_iff, Json.asString?_eq_some_iff,
      ← and_assoc, exists_eq_right]
    exact ⟨Iff.rfl, trivial⟩
  constructor
  · intro h
    obtain ⟨fields, hfields, h⟩ := Option.bind_eq_some_iff.mp h
    obtain ⟨hsurplus, h⟩ := Option.ite_none_left_eq_some.mp h
    obtain ⟨code, hcode, h⟩ := Option.bind_eq_some_iff.mp h
    obtain ⟨description, hdescription, h⟩ := Option.bind_eq_some_iff.mp h
    cases h
    obtain ⟨hcode, hle⟩ := (hread hfields).1.mp hcode
    exact ⟨Json.Record.isRecord_of_ofJson? hfields (by simpa using hsurplus), hcode, hle,
      (hread hfields).2.mp hdescription⟩
  · rintro ⟨hrecord, hcode, hle, hdescription⟩
    obtain ⟨fields, hfields, hsurplus⟩ :=
      Json.Record.exists_of_isRecord ["code", "description"] hrecord
    have hreadCode := (hread hfields).1.mpr ⟨hcode, hle⟩
    have hreadDescription := (hread hfields).2.mpr hdescription
    simp [ofJson?, hfields, hsurplus, hreadCode, hreadDescription]

theorem Refusal.toError_notFound (description : String) :
    toError ⟨404, description⟩ = .notFound description :=
  if_pos rfl

theorem Refusal.toError_of_ne {code : Nat} (hcode : code ≠ 404) (description : String) :
    toError ⟨code, description⟩ = .broker (description ++ " (code " ++ toString code ++ ")") :=
  if_neg hcode

/-! ## The data of a success -/

/-- The flag in the data; where it is missing, the thing was not done. -/
structure IsDone (done : Bool) (document : Json) : Prop where
  isRecord : document.IsRecord 1
  flag :
    document.field? "success" 0 = some (.bool done) ∨
      document.field? "success" 0 = none ∧ done = false

theorem readSuccess_eq_some_iff {document : Json} {done : Bool} :
    readSuccess document = some done ↔ IsDone done document := by
  have hread {fields : Json.Record} (h : Json.Record.ofJson? ["success"] document = some fields) :
      fields.read "success" false Json.asBool? = some done ↔
        document.field? "success" 0 = some (.bool done) ∨
          document.field? "success" 0 = none ∧ done = false := by
    rw [← Json.Record.get?_of_ofJson? (by decide) rfl h, Json.Record.read_eq_some_iff]
    simp only [Option.bind_eq_some_iff, Json.asBool?_eq_some_iff, exists_eq_right]
  constructor
  · intro h
    obtain ⟨fields, hfields, h⟩ := Option.bind_eq_some_iff.mp h
    obtain ⟨hsurplus, h⟩ := Option.ite_none_left_eq_some.mp h
    exact ⟨Json.Record.isRecord_of_ofJson? hfields (by simpa using hsurplus),
      (hread hfields).mp h⟩
  · rintro ⟨hrecord, hflag⟩
    obtain ⟨fields, hfields, hsurplus⟩ :=
      Json.Record.exists_of_isRecord ["success"] hrecord
    simp [readSuccess, readField, hfields, hsurplus, (hread hfields).mpr hflag]

/-! ## The verdict on a payload -/

/-- What comes of a reply. -/
inductive Verdict (α : Type) where
  | answer (value : α)
  | notFound (description : String)
  | refused (code : Nat) (description : String)
  /-- The payload is no JSON, or its error is none that can be read. -/
  | unreadable
  /-- The data do not fit the request. -/
  | unfit

/-- The document has no error. -/
def IsPlain (document : Json) : Prop :=
  document.member? "error" = none ∨ document.member? "error" = some .null

/-- The document has an error. -/
def HasError (document error : Json) : Prop :=
  document.member? "error" = some error ∧ error ≠ .null

/-- The verdicts on a payload, one case for each way in which a reply can go. -/
inductive HasVerdict {α : Type} (read : Json → Option α) (payload : Bytes) : Verdict α → Prop
  | answer {document value} (hdocument : document? payload = some document)
      (hplain : IsPlain document) (hvalue : read document = some value) :
      HasVerdict read payload (.answer value)
  | notFound {document error description} (hdocument : document? payload = some document)
      (herror : HasError document error) (hr : Refusal.IsWrittenAs ⟨404, description⟩ error) :
      HasVerdict read payload (.notFound description)
  | refused {document error code description} (hdocument : document? payload = some document)
      (herror : HasError document error) (hr : Refusal.IsWrittenAs ⟨code, description⟩ error)
      (hcode : code ≠ 404) : HasVerdict read payload (.refused code description)
  | noJson (hdocument : document? payload = none) : HasVerdict read payload .unreadable
  | noRefusal {document error} (hdocument : document? payload = some document)
      (herror : HasError document error) (hr : ∀ r : Refusal, ¬ r.IsWrittenAs error) :
      HasVerdict read payload .unreadable
  | unfit {document} (hdocument : document? payload = some document) (hplain : IsPlain document)
      (hvalue : read document = none) : HasVerdict read payload .unfit

namespace Verdict

variable {α : Type}

/-- What the caller gets. -/
def outcome (subject : String) : Verdict α → Except Error α
  | answer value => .ok value
  | notFound description => .error (.notFound description)
  | refused code description => .error (.broker (description ++ " (code " ++ toString code ++ ")"))
  | unreadable => .error (.json .malformed)
  | unfit => .error (.broker ("unexpected response to " ++ subject ++ ": malformed data"))

/-- What stands before the last bracket of a refusal. -/
private def refusalChars (code : Nat) (description : String) : List Char :=
  description.toList ++ " (code ".toList ++ Nat.toDigits 10 code

private theorem toList_refusal (code : Nat) (description : String) :
    (description ++ " (code " ++ toString code ++ ")").toList =
      refusalChars code description ++ [')'] := by
  simp only [String.toList_append, Nat.toString_eq_repr, Nat.toList_repr, refusalChars]
  rfl

/-- Backwards the digits of the code come first, and a blank ends them. -/
private theorem takeWhile_reverse_refusalChars (code : Nat) (description : String) :
    (refusalChars code description).reverse.takeWhile Char.isDigit =
      (Nat.toDigits 10 code).reverse := by
  have hblank : Text.NoDigit (description.toList ++ " (code ".toList).reverse := by
    rw [List.reverse_append]
    exact Text.noDigit_cons.mpr rfl
  rw [refusalChars, List.reverse_append]
  exact Text.takeWhile_isDigit_append
    (fun c hc => Text.isDigit_of_mem_toDigits (List.mem_reverse.mp hc)) hblank

theorem refusal_text_injective {code code' : Nat} {description description' : String}
    (h : description ++ " (code " ++ toString code ++ ")" =
      description' ++ " (code " ++ toString code' ++ ")") :
    code = code' ∧ description = description' := by
  have hchars : refusalChars code description = refusalChars code' description' := by
    have htoList := congrArg String.toList h
    rw [toList_refusal, toList_refusal] at htoList
    exact List.append_cancel_right htoList
  have hdigits : Nat.toDigits 10 code = Nat.toDigits 10 code' := by
    rw [← List.reverse_inj, ← takeWhile_reverse_refusalChars code description, hchars,
      takeWhile_reverse_refusalChars]
  have hcode : code = code' := by
    rw [← Text.digitsValue_toDigits code, hdigits, Text.digitsValue_toDigits]
  have hdescription : description.toList = description'.toList := by
    rw [refusalChars, refusalChars, hdigits] at hchars
    exact List.append_cancel_right (List.append_cancel_right hchars)
  exact ⟨hcode, String.toList_injective hdescription⟩

/-- The one text ends in a bracket, the other one in a letter. -/
theorem refusal_text_ne_unexpected (code : Nat) (description subject : String) :
    description ++ " (code " ++ toString code ++ ")" ≠
      "unexpected response to " ++ subject ++ ": malformed data" := by
  intro h
  have hlast := congrArg (fun text : String => text.toList.getLast?) h
  simp only [String.toList_append, List.getLast?_append] at hlast
  have hbracket : some ')' = some 'a' := hlast
  exact absurd hbracket (by decide)

theorem outcome_injective (subject : String) :
    Function.Injective (outcome subject : Verdict α → Except Error α) := by
  intro v w h
  -- only refusals and data that do not fit come to errors of one kind
  cases v with
  | refused code description =>
      cases w with
      | refused code' description' =>
          obtain ⟨rfl, rfl⟩ := refusal_text_injective (Error.broker.inj (Except.error.inj h))
          rfl
      | unfit =>
          exact absurd (Error.broker.inj (Except.error.inj h)) (refusal_text_ne_unexpected _ _ _)
      | _ => cases h
  | unfit =>
      cases w with
      | refused code description =>
          exact absurd (Error.broker.inj (Except.error.inj h)).symm
            (refusal_text_ne_unexpected _ _ _)
      | unfit => rfl
      | _ => cases h
  | _ =>
      cases w <;> cases h
      rfl

end Verdict

/-! ## Reading a reply -/

theorem refusal?_eq_none_iff {document : Json} : refusal? document = none ↔ IsPlain document := by
  unfold refusal? IsPlain
  split <;> simp_all

theorem refusal?_eq_some_iff {document error : Json} :
    refusal? document = some error ↔ HasError document error := by
  unfold refusal? HasError
  split
  · simp_all
  · simp_all
  · rename_i value hnull hvalue
    rw [hvalue, Option.some.injEq]
    constructor
    · rintro rfl
      exact ⟨rfl, hnull⟩
    · exact And.left

section Decode

variable {α : Type} {subject : String} {read : Json → Option α} {payload : Bytes}
  {verdict : Verdict α}

theorem exists_hasVerdict (read : Json → Option α) (payload : Bytes) :
    ∃ verdict, HasVerdict read payload verdict := by
  cases hdocument : document? payload with
  | none => exact ⟨_, .noJson hdocument⟩
  | some document =>
      cases herror : refusal? document with
      | none =>
          have hplain := refusal?_eq_none_iff.mp herror
          cases hvalue : read document with
          | some value => exact ⟨_, .answer hdocument hplain hvalue⟩
          | none => exact ⟨_, .unfit hdocument hplain hvalue⟩
      | some error =>
          have herror := refusal?_eq_some_iff.mp herror
          by_cases hr : ∃ r : Refusal, r.IsWrittenAs error
          · obtain ⟨⟨code, description⟩, hr⟩ := hr
            by_cases hcode : code = 404
            · subst hcode
              exact ⟨_, .notFound hdocument herror hr⟩
            · exact ⟨_, .refused hdocument herror hr hcode⟩
          · exact ⟨_, .noRefusal hdocument herror (not_exists.mp hr)⟩

theorem decode_of_hasVerdict (subject : String) (h : HasVerdict read payload verdict) :
    decode subject read payload = verdict.outcome subject := by
  cases h with
  | noJson hdocument => simp only [decode, hdocument, Verdict.outcome]
  | answer hdocument hplain hvalue =>
      have herror := refusal?_eq_none_iff.mpr hplain
      simp only [decode, hdocument, herror, hvalue, Verdict.outcome]
  | unfit hdocument hplain hvalue =>
      have herror := refusal?_eq_none_iff.mpr hplain
      simp only [decode, hdocument, herror, hvalue, Verdict.outcome, unexpected]
  | notFound hdocument herror hr =>
      have herror := refusal?_eq_some_iff.mpr herror
      have hr := Refusal.ofJson?_eq_some_iff.mpr hr
      simp only [decode, hdocument, herror, hr, Verdict.outcome, Refusal.toError_notFound]
  | refused hdocument herror hr hcode =>
      have herror := refusal?_eq_some_iff.mpr herror
      have hr := Refusal.ofJson?_eq_some_iff.mpr hr
      simp only [decode, hdocument, herror, hr, Verdict.outcome, Refusal.toError_of_ne hcode]
  | noRefusal hdocument herror hr =>
      have herror := refusal?_eq_some_iff.mpr herror
      have hr : Refusal.ofJson? _ = none := Option.eq_none_iff_forall_ne_some.mpr
        fun r h => hr r (Refusal.ofJson?_eq_some_iff.mp h)
      simp only [decode, hdocument, herror, hr, Verdict.outcome]

theorem decode_eq_outcome_iff :
    decode subject read payload = verdict.outcome subject ↔ HasVerdict read payload verdict := by
  constructor
  · intro h
    obtain ⟨other, hother⟩ := exists_hasVerdict read payload
    have hsame : other = verdict :=
      Verdict.outcome_injective subject ((decode_of_hasVerdict subject hother).symm.trans h)
    exact hsame ▸ hother
  · exact decode_of_hasVerdict subject

theorem existsUnique_hasVerdict (read : Json → Option α) (payload : Bytes) :
    ∃! verdict, HasVerdict read payload verdict := by
  obtain ⟨verdict, h⟩ := exists_hasVerdict read payload
  refine ⟨verdict, h, ?_⟩
  intro other hother
  have hsame := (decode_of_hasVerdict "" hother).symm.trans (decode_of_hasVerdict "" h)
  exact Verdict.outcome_injective "" hsame

end Decode

/-! ## Requests to do something -/

/-- The payload has no error, and tells whether the thing was done. -/
def Tells (payload : Bytes) (done : Bool) : Prop :=
  ∃ document, document? payload = some document ∧ IsPlain document ∧ IsDone done document

theorem decode_readSuccess_eq_ok_iff (subject : String) {payload : Bytes} {done : Bool} :
    decode subject readSuccess payload = .ok done ↔ Tells payload done := by
  have hverdict : decode subject readSuccess payload = (Verdict.answer done).outcome subject ↔
      HasVerdict readSuccess payload (.answer done) := decode_eq_outcome_iff
  refine hverdict.trans ?_
  constructor
  · rintro ⟨hdocument, hplain, hvalue⟩
    exact ⟨_, hdocument, hplain, readSuccess_eq_some_iff.mp hvalue⟩
  · rintro ⟨document, hdocument, hplain, hdone⟩
    exact .answer hdocument hplain (readSuccess_eq_some_iff.mpr hdone)

theorem confirm_eq_ok_iff {subject failure : String} {payload : Bytes} :
    confirm subject failure payload = .ok () ↔ Tells payload true := by
  rw [← decode_readSuccess_eq_ok_iff subject]
  unfold confirm
  rcases decode subject readSuccess payload with error | done
  · constructor <;> intro h <;> cases h
  · cases done <;> simp [bind, Except.bind]

theorem confirm_of_not_done (subject failure : String) {payload : Bytes}
    (h : Tells payload false) : confirm subject failure payload = .error (.broker failure) := by
  rw [← decode_readSuccess_eq_ok_iff subject] at h
  simp [confirm, h, bind, Except.bind]

/-- Every reply goes in exactly one of the ways that there are, whatever data it is read as, and the
caller can tell which by what comes of it.  So a consumer counts as deleted, or its leader as
stepped down, just where the reply has no error and its flag is set; a flag that is missing is not
set. -/
theorem verdict_of_reply (subject : String) (payload : Bytes) (stream consumer : String) :
    (∀ {α : Type} (read : Json → Option α),
      (∃! verdict, HasVerdict read payload verdict) ∧
        ∀ verdict, decode subject read payload = verdict.outcome subject ↔
          HasVerdict read payload verdict) ∧
      (answer subject payload (.deleteConsumer stream consumer) = .ok () ↔ Tells payload true) ∧
      (answer subject payload (.stepDown stream consumer) = .ok () ↔ Tells payload true) ∧
      (Tells payload false →
        answer subject payload (.deleteConsumer stream consumer) =
            .error (.broker ("could not delete " ++ stream ++ " > " ++ consumer)) ∧
          answer subject payload (.stepDown stream consumer) =
            .error (.broker "leader step down was not accepted")) := by
  refine ⟨?_, confirm_eq_ok_iff, confirm_eq_ok_iff, ?_⟩
  · intro α read
    exact ⟨existsUnique_hasVerdict read payload, fun _ => decode_eq_outcome_iff⟩
  · intro hnot
    exact ⟨confirm_of_not_done subject _ hnot, confirm_of_not_done subject _ hnot⟩

/-- A reply that says nothing is taken for a failure. -/
theorem verdict_of_reply_silent :
    let payload := Text.encode "{}"
    Tells payload false ∧
      answer "" payload (.deleteConsumer "orders" "jobs") =
        .error (.broker "could not delete orders > jobs") := by
  intro payload
  have hdocument : document? payload = some (.object []) := by
    rw [document?, Text.ofBytes?_encode]
    cbv
  have htells : Tells payload false :=
    ⟨.object [], hdocument, .inl rfl, trivial, .inr ⟨rfl, rfl⟩⟩
  obtain ⟨-, -, -, hnot⟩ := verdict_of_reply "" payload "orders" "jobs"
  exact ⟨htells, (hnot htells).1⟩

end JetStream.Broker.Api

import JetStream.Proofs.Consumer.Resolved
import JetStream.Proofs.Consumer.Violations

/-!
# What is left to the validator

Flags and answers are checked while a configuration is made of them, and the document of the
configuration is checked once more before it is submitted, by rules of its own.  The two sets of
rules differ: a name may have blanks in it, a subject may be anything at all, the sequence to start
from may be zero and a limit too small.  This file says that there is no other difference.

## Strategy

The validator finds the rules that a configuration breaks (`mem_violations_toJson_iff`), so it is
enough to go through `Config.Breaks`.  `IsResolved` takes care of the rules about modes, shares and
characters with a meaning in subjects; each of the others is a condition on one field, and these are
the fields of `IsAdmissible`.
-/

namespace JetStream.Consumer

open Text

/-- What flags and answers do not see to, and the validator does. -/
structure Config.IsAdmissible (c : Config) : Prop where
  name_unbroken : ∀ name, c.durableName = some name → ∀ char ∈ name.toList, isBlank char = false
  target_formed : ∀ subject, c.deliverSubject = some subject → ¬Subject.IsMalformed subject
  /-- Messages are pushed to a single subject. -/
  target_single : ∀ subject, c.deliverSubject = some subject → ¬Subject.IsWild subject
  filter_formed : ∀ subject, c.filterSubject = some subject → ¬Subject.IsMalformed subject
  start_ne : c.deliverPolicy ≠ .byStartSequence 0
  maxDeliver_ge : -1 ≤ c.maxDeliver.toInt
  maxAckPending_ge : 0 ≤ c.maxAckPending.toInt

/-- The rule is one that flags and answers are held to: rates and names go with the mode, a share is
a percentage, and a start stands with a policy that has one. -/
def Violation.IsSettled : Violation → Prop
  | rateLimitOnPull | ephemeralPull | invalidSample _ | startNotAllowed _ => True
  | _ => False

variable {c : Config} {ephemeral : Bool} {v : Violation}

/-! ## Rules that are kept -/

theorem isValid_validate_iff (c : Config) :
    (validate false c).1.isValid = true ↔ ∀ v, ¬c.Breaks v := by
  rw [isValid_validate, List.eq_nil_iff_forall_not_mem]
  exact forall_congr' fun v => not_congr Schema.mem_violations_toJson_iff

namespace Config.IsResolved

/-- No text of a resolved configuration is empty, so the validator looks at all that there are. -/
theorem nonEmpty_eq (h : c.IsResolved ephemeral) :
    nonEmpty c.durableName = c.durableName ∧ nonEmpty c.deliverSubject = c.deliverSubject ∧
      nonEmpty c.filterSubject = c.filterSubject :=
  ⟨(nonEmpty_eq_self_iff _).mpr h.durableName_ne, (nonEmpty_eq_self_iff _).mpr h.deliverSubject_ne,
    (nonEmpty_eq_self_iff _).mpr h.filterSubject_ne⟩

theorem not_isSettled (h : c.IsResolved ephemeral) (hbreaks : c.Breaks v) : ¬v.IsSettled := by
  obtain ⟨hname, hdeliver, -⟩ := h.nonEmpty_eq
  cases hbreaks with
  | share hshare hmore =>
      have hle := UInt8.le_iff_toNat_le.mp (h.sample_bounds _ hshare).2
      exact absurd hle (Nat.not_le_of_lt hmore)
  | rateLimit hrate hpull =>
      rw [hdeliver] at hpull
      have hunrated := h.unrated_of_pull (Option.isNone_iff_eq_none.mpr hpull)
      rw [hunrated] at hrate
      exact absurd hrate (Nat.lt_irrefl 0)
  | ephemeral hunnamed hpull =>
      rw [hname] at hunnamed
      rw [hdeliver] at hpull
      have hpush := h.push_of_unnamed hunnamed
      rw [isPush, hpull] at hpush
      exact absurd hpush Bool.false_ne_true
  | _ => exact id

/-! ## Rules that are left -/

/-- The name has no other illegal characters than blanks. -/
theorem isBlank_of_illegal (h : c.IsResolved ephemeral) {name : String} {illegal : Char}
    (hname : c.durableName = some name) (hmem : illegal ∈ name.toList)
    (hillegal : illegal = '.' ∨ illegal = '*' ∨ illegal = '>' ∨ isBlank illegal = true) :
    isBlank illegal = true := by
  obtain ⟨-, hpoint, hstar, hrest⟩ := h.name_legal name hname
  rcases hillegal with rfl | rfl | rfl | hblank
  · exact absurd hmem hpoint
  · exact absurd hmem hstar
  · exact absurd hmem hrest
  · exact hblank

theorem not_breaks_of_isAdmissible (h : c.IsResolved ephemeral) (hadmissible : c.IsAdmissible)
    (hbreaks : c.Breaks v) : False := by
  have hleft := h.not_isSettled hbreaks
  obtain ⟨hname, hdeliver, hfilter⟩ := h.nonEmpty_eq
  cases hbreaks with
  | name hgiven hmem hillegal =>
      rw [hname] at hgiven
      have hblank := h.isBlank_of_illegal hgiven hmem hillegal
      rw [hadmissible.name_unbroken _ hgiven _ hmem] at hblank
      exact Bool.false_ne_true hblank
  | deliverSubject hsubject hmalformed =>
      exact hadmissible.target_formed _ (hdeliver ▸ hsubject) hmalformed
  | deliverWildcard hsubject hformed hwild =>
      exact hadmissible.target_single _ (hdeliver ▸ hsubject) hwild
  | filterSubject hsubject hmalformed =>
      exact hadmissible.filter_formed _ (hfilter ▸ hsubject) hmalformed
  | startSequence hpolicy => exact hadmissible.start_ne hpolicy
  | maxDeliver hlimit => exact absurd hadmissible.maxDeliver_ge (Int.not_le.mpr hlimit)
  | maxAckPending hlimit => exact absurd hadmissible.maxAckPending_ge (Int.not_le.mpr hlimit)
  | share hshare hmore => exact hleft trivial
  | rateLimit hrate hpull => exact hleft trivial
  | ephemeral hunnamed hpull => exact hleft trivial

theorem isAdmissible_of_not_breaks (h : c.IsResolved ephemeral) (hkept : ∀ v, ¬c.Breaks v) :
    c.IsAdmissible := by
  obtain ⟨hname, hdeliver, hfilter⟩ := h.nonEmpty_eq
  have htarget : ∀ subject, c.deliverSubject = some subject → ¬Subject.IsMalformed subject :=
    fun subject hsubject hmalformed =>
      hkept _ (.deliverSubject (hdeliver.trans hsubject) hmalformed)
  constructor
  case name_unbroken =>
    intro name hgiven char hmem
    refine eq_false_of_ne_true fun hblank => ?_
    exact hkept _ (.name (hname.trans hgiven) hmem (.inr (.inr (.inr hblank))))
  case target_formed => exact htarget
  case target_single =>
    intro subject hsubject hwild
    exact hkept _ (.deliverWildcard (hdeliver.trans hsubject) (htarget subject hsubject) hwild)
  case filter_formed =>
    intro subject hsubject hmalformed
    exact hkept _ (.filterSubject (hfilter.trans hsubject) hmalformed)
  case start_ne => exact fun hpolicy => hkept _ (.startSequence hpolicy)
  case maxDeliver_ge => exact Int.not_lt.mp fun hlimit => hkept _ (.maxDeliver hlimit)
  case maxAckPending_ge => exact Int.not_lt.mp fun hlimit => hkept _ (.maxAckPending hlimit)

end Config.IsResolved

/-! ## Every configuration -/

/-- A configuration that flags and answers come to is valid exactly if it is admissible.  In no case
does it break a rule that is settled by then, and there is no character in its name that means
something in subjects. -/
theorem isValid_build_iff {circumstances : Circumstances} {prompter : Prompter} {flags : Flags}
    {c : Config} (hfile : flags.configFile = none)
    (h : (build circumstances prompter flags).outcome.1 = .ok c) :
    ((validate false c).1.isValid = true ↔ c.IsAdmissible) ∧
      (∀ v ∈ Schema.violations c.toJson, ¬v.IsSettled) ∧
      ∀ name, c.durableName = some name →
        '.' ∉ name.toList ∧ '*' ∉ name.toList ∧ '>' ∉ name.toList := by
  have hresolved : c.IsResolved flags.ephemeral := by
    obtain ⟨r, rfl⟩ := exists_resolution_of_build hfile h
    exact r.config_isResolved
  refine ⟨?_, ?_, ?_⟩
  · rw [isValid_validate_iff]
    constructor
    · exact hresolved.isAdmissible_of_not_breaks
    · exact fun hadmissible v => hresolved.not_breaks_of_isAdmissible hadmissible
  · intro v hv
    exact hresolved.not_isSettled (Schema.mem_violations_toJson_iff.mp hv)
  · intro name hname
    exact (hresolved.name_legal name hname).2

/-- Nothing is said against a blank in a name before the configuration is to be submitted. -/
theorem isValid_build_iff_blank :
    ∃ c, (build { now := default } .nonInteractive
        { name := some "a b", pull := true, startPolicy := some "all" }).outcome.1 = .ok c ∧
      (validate false c).1.isValid = false := by
  have hbuilt : (build { now := default } .nonInteractive
      { name := some "a b", pull := true, startPolicy := some "all" }).outcome.1 =
        .ok { durableName := some "a b", maxDeliver := -1 } := rfl
  obtain ⟨hvalid, -, -⟩ := isValid_build_iff rfl hbuilt
  refine ⟨_, hbuilt, eq_false_of_ne_true fun htrue => ?_⟩
  have hblank := (hvalid.mp htrue).name_unbroken "a b" rfl ' ' (by decide)
  exact absurd hblank (by decide)

end JetStream.Consumer

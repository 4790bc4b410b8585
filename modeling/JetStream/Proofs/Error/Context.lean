import JetStream.Error

/-!
# Errors in a context

To say what was being done changes the text of an error and never what the error is, however many
contexts are added (`inContexts_exact`).  Of two steps that may fail, one after the other, both
succeed or there is an error.
-/

namespace JetStream

theorem bind_eq_ok_iff {ε α β : Type} {m : Except ε α} {f : α → Except ε β} {value : β} :
    (m >>= f) = .ok value ↔ ∃ a, m = .ok a ∧ f a = .ok value := by
  cases m with
  | error e => exact ⟨nofun, nofun⟩
  | ok a =>
      constructor
      · exact fun h => ⟨a, rfl, h⟩
      · rintro ⟨_, ⟨⟩, h⟩
        exact h

theorem mapError_eq_ok_iff {ε ε' α : Type} {m : Except ε α} {f : ε → ε'} {value : α} :
    m.mapError f = .ok value ↔ m = .ok value := by
  cases m with
  | error e => exact ⟨nofun, nofun⟩
  | ok a =>
      constructor
      · rintro ⟨⟩
        rfl
      · rintro ⟨⟩
        rfl

namespace Error

/-- What an error is, apart from the reason that a context is put before. -/
def bare : Error → Error
  | input _ => input ""
  | notFound _ => notFound ""
  | broker _ => broker ""
  | timeout _ => timeout ""
  | config _ => config ""
  | file fault _ => file fault ""
  | e => e

/-- The text of an error is of one part, which a context can be put before. -/
def takesContext : Error → Bool
  | input _ | notFound _ | broker _ | timeout _ | config _ | file _ _ => true
  | validation _ | notClustered _ _ | ack _ _ | json _ | yaml _ => false

theorem bare_inContext (context : String) (e : Error) : (e.inContext context).bare = e.bare := by
  cases e with
  | _ => rfl

/-! ## What does not depend on the reason -/

section Bare

variable (e : Error)

@[simp] theorem label_bare : e.bare.label = e.label := by
  cases e with
  | _ => rfl

@[simp] theorem kind_bare : e.bare.kind = e.kind := by
  cases e with
  | _ => rfl

@[simp] theorem severity_bare : e.bare.severity = e.severity := by
  cases e with
  | _ => rfl

@[simp] theorem isRetryable_bare : e.bare.isRetryable = e.isRetryable := by
  cases e with
  | _ => rfl

@[simp] theorem takesContext_bare : e.bare.takesContext = e.takesContext := by
  cases e with
  | _ => rfl

end Bare

/-! ## One context after another -/

/-- Says what was being done in one context after another. -/
def inContexts (contexts : List String) (e : Error) : Error :=
  contexts.foldl (fun e context => e.inContext context) e

theorem bare_inContexts (contexts : List String) (e : Error) :
    (e.inContexts contexts).bare = e.bare := by
  induction contexts generalizing e with
  | nil => rfl
  | cons context contexts ih => exact (ih (e.inContext context)).trans (bare_inContext context e)

/-- Contexts keep whatever does not depend on the reason. -/
theorem apply_inContexts {α : Type} {f : Error → α} (hf : ∀ e, f e.bare = f e)
    (contexts : List String) (e : Error) : f (e.inContexts contexts) = f e := by
  rw [← hf, bare_inContexts, hf]

/-! ## Texts in contexts -/

section Texts

variable (context : String) {e : Error}

theorem reason_inContext (h : e.takesContext = true) :
    (e.inContext context).reason = context ++ ": " ++ e.reason := by
  cases e with
  | input | notFound | broker | timeout | config | file => rfl
  | validation | notClustered | ack | json | yaml => nomatch h

theorem inContext_eq_self (h : e.takesContext = false) : e.inContext context = e := by
  cases e with
  | input | notFound | broker | timeout | config | file => nomatch h
  | validation | notClustered | ack | json | yaml => rfl

end Texts

/-- What contexts put before a reason: the latest first, with a colon after each. -/
def lead (contexts : List String) : String :=
  String.join (contexts.reverse.map (· ++ ": "))

theorem lead_cons (context : String) (contexts : List String) :
    lead (context :: contexts) = lead contexts ++ (context ++ ": ") := by
  simp [lead]

theorem reason_inContexts (contexts : List String) {e : Error} (h : e.takesContext = true) :
    (e.inContexts contexts).reason = lead contexts ++ e.reason := by
  induction contexts generalizing e with
  | nil => exact String.empty_append.symm
  | cons context contexts ih =>
      have hnext : (e.inContext context).takesContext = true :=
        (apply_inContexts takesContext_bare [context] e).trans h
      calc (e.inContexts (context :: contexts)).reason
          = lead contexts ++ (e.inContext context).reason := ih hnext
        _ = lead (context :: contexts) ++ e.reason := by
            rw [reason_inContext context h, lead_cons, String.append_assoc, String.append_assoc,
              String.append_assoc]

theorem inContexts_eq_self (contexts : List String) {e : Error} (h : e.takesContext = false) :
    e.inContexts contexts = e := by
  induction contexts with
  | nil => rfl
  | cons context contexts ih =>
      change (e.inContext context).inContexts contexts = e
      rw [inContext_eq_self context h, ih]

/-- Whatever contexts an error is put into, it stays what it is, with the fault of a file if it is
about one; so whoever has to do with it, how grave it is and whether to try again stay the same.  If
its text is of one part, the contexts come between the label and the reason, the latest first; any
other error does not change at all. -/
theorem inContexts_exact (contexts : List String) (e : Error) :
    (e.inContexts contexts).bare = e.bare ∧
    ((e.inContexts contexts).kind = e.kind ∧
      (e.inContexts contexts).severity = e.severity ∧
      (e.inContexts contexts).isRetryable = e.isRetryable) ∧
    (e.takesContext = true →
      (e.inContexts contexts).message = e.label ++ lead contexts ++ e.reason) ∧
    (e.takesContext = false → e.inContexts contexts = e) := by
  refine ⟨bare_inContexts contexts e, ⟨?_, ?_, ?_⟩, fun h => ?_, inContexts_eq_self contexts⟩
  · exact apply_inContexts kind_bare contexts e
  · exact apply_inContexts severity_bare contexts e
  · exact apply_inContexts isRetryable_bare contexts e
  · have hlabel : (e.inContexts contexts).label = e.label :=
      apply_inContexts label_bare contexts e
    rw [message, hlabel, reason_inContexts contexts h, String.append_assoc]

/-- A file that is missing two contexts deep, one of them empty, and an acknowledgement. -/
theorem inContexts_exact_missing :
    let missing := ofFileFault .notFound
    let refused := ack "$JS.ACK.x" "closed"
    missing.takesContext = true ∧ refused.takesContext = false ∧
      (missing.inContexts ["could not read s.yaml", ""]).bare = .file .notFound "" ∧
      (missing.inContexts ["could not read s.yaml", ""]).isRetryable = true ∧
      (missing.inContexts ["could not read s.yaml", ""]).message =
        "IO error: : could not read s.yaml: No such file or directory (os error 2)" ∧
      refused.inContexts ["could not read s.yaml", ""] = refused := by
  intro missing refused
  obtain ⟨hbare, ⟨-, -, hretry⟩, htext, -⟩ :=
    inContexts_exact ["could not read s.yaml", ""] missing
  obtain ⟨-, -, -, hself⟩ := inContexts_exact ["could not read s.yaml", ""] refused
  refine ⟨rfl, rfl, hbare, hretry, ?_, hself rfl⟩
  rw [htext rfl]
  decide

end Error

end JetStream

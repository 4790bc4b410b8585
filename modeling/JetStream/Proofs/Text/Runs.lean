import Mathlib.Data.List.TakeWhile

/-!
# Runs of characters

A text is a row of runs of characters that pass a test, as long as they can be, with single other
characters between them.  A reader that takes runs off the front of a text is followed by induction
on this row.
-/

namespace JetStream.Text

variable {test : Char → Bool} {cs front rest : List Char}

theorem dropWhile_eq_self (h : ∀ c ∈ cs, test c = false) : cs.dropWhile test = cs := by
  cases cs with
  | nil => rfl
  | cons c cs => simp [h c List.mem_cons_self]

theorem takeWhile_append_eq_left (hfront : ∀ c ∈ front, test c = true)
    (hrest : ∀ c ∈ rest.head?, test c = false) : (front ++ rest).takeWhile test = front := by
  rw [List.takeWhile_append_of_pos hfront]
  cases rest with
  | nil => exact List.append_nil front
  | cons c rest =>
      rw [List.takeWhile_cons_of_neg (Bool.eq_false_iff.mp (hrest c rfl)), List.append_nil]

theorem dropWhile_append_eq_right (hfront : ∀ c ∈ front, test c = true)
    (hrest : ∀ c ∈ rest.head?, test c = false) : (front ++ rest).dropWhile test = rest := by
  rw [List.dropWhile_append_of_pos hfront]
  cases rest with
  | nil => rfl
  | cons c rest => rw [List.dropWhile_cons_of_neg (Bool.eq_false_iff.mp (hrest c rfl))]

theorem head?_dropWhile_eq_false (test : Char → Bool) (cs : List Char) :
    ∀ c ∈ (cs.dropWhile test).head?, test c = false := by
  intro c hc
  have hfound := List.head?_dropWhile_not test cs
  rw [Option.mem_def.mp hc] at hfound
  exact hfound

theorem runs_induction (test : Char → Bool) {motive : List Char → Prop} (nil : motive [])
    (other : ∀ c rest, test c = false → motive rest → motive (c :: rest))
    (run : ∀ front rest, front ≠ [] → (∀ c ∈ front, test c = true) →
      (∀ c ∈ rest.head?, test c = false) → motive rest → motive (front ++ rest))
    (cs : List Char) : motive cs := by
  induction hlength : cs.length using Nat.strong_induction_on generalizing cs with
  | h length ih =>
      cases cs with
      | nil => exact nil
      | cons c cs =>
          have hshorter : cs.length < length := by rw [← hlength, List.length_cons]; omega
          cases hc : test c with
          | false => exact other c cs hc (ih _ hshorter cs rfl)
          | true =>
              have hdropped : (cs.dropWhile test).length < length :=
                Nat.lt_of_le_of_lt (List.length_dropWhile_le test cs) hshorter
              have hrun := run (c :: cs.takeWhile test) (cs.dropWhile test) (List.cons_ne_nil _ _)
                (List.forall_mem_cons.mpr ⟨hc, fun d hd => List.mem_takeWhile_imp hd⟩)
                (head?_dropWhile_eq_false test cs) (ih _ hdropped _ rfl)
              rwa [List.cons_append, List.takeWhile_append_dropWhile] at hrun

end JetStream.Text

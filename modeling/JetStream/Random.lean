import JetStream.Duration.Basic

/-!
# Random delays

A random source gives words of 64 bits.  A number below a bound is the upper half of the product of
a word and the bound; words whose lower half shows that some numbers would come up more often are
passed over.
-/

namespace JetStream

/-- A random source: its words, and zeros after them. -/
structure RandomSource where
  words : List UInt64 := []
  deriving DecidableEq, Inhabited

namespace RandomSource

/-- The largest lower half with which a word counts: the bound moved up to the top of 64 bits, less
one. -/
def zone (bound : Nat) : Nat :=
  bound * Nat.pow 2 (63 - bound.log2) - 1

/-- A number below a bound from the first word that counts, and the words after it. -/
def pick (bound : Nat) : List UInt64 → Nat × List UInt64
  | [] => (0, [])
  | w :: rest =>
      let product := w.toNat * bound
      if product % UInt64.size ≤ zone bound then (product / UInt64.size, rest) else pick bound rest

/-- A number below a bound of 64 bits; nothing is drawn for the bound zero. -/
def below (source : RandomSource) (bound : Nat) : Nat × RandomSource :=
  if bound = 0 then (0, source)
  else
    let (n, rest) := pick bound source.words
    (n, ⟨rest⟩)

/-- A delay of less than a limit, which counts up to 64 bits of nanoseconds. -/
def delay (source : RandomSource) (limit : Duration) : Duration × RandomSource :=
  let (n, source) := source.below (min limit.nanoseconds (UInt64.size - 1))
  (⟨n⟩, source)

theorem pick_lt {bound : Nat} (h : 0 < bound) (words : List UInt64) :
    (pick bound words).1 < bound := by
  induction words with
  | nil => exact h
  | cons w rest ih =>
      simp only [pick]
      split
      · refine Nat.div_lt_of_lt_mul ?_
        exact (Nat.mul_lt_mul_right h).mpr w.toNat_lt
      · exact ih

end RandomSource

end JetStream

/-!
# Bytes as text

Reading UTF-8: a strict reader, which refuses any ill-formed byte, and a lenient one, which shows
each ill-formed run as one replacement character.  A run is as long as the bytes could still have
begun a character.
-/

namespace JetStream.Text

/-- A byte sequence, such as the body of a message. -/
abbrev Bytes := List UInt8

/-- Stands for bytes that encode no character. -/
def replacement : Char := '\uFFFD'

/-- The range of the byte after a lead byte of a sequence of three or four bytes. -/
def secondByteRange (lead : Nat) : Nat × Nat :=
  if lead = 0xe0 then (0xa0, 0xbf)
  else if lead = 0xed then (0x80, 0x9f)
  else if lead = 0xf0 then (0x90, 0xbf)
  else if lead = 0xf4 then (0x80, 0x8f)
  else (0x80, 0xbf)

/-- The six bits that a byte in the given range adds, and the bytes after it. -/
def continuation? (range : Nat × Nat) : Bytes → Option (Nat × Bytes)
  | [] => none
  | b :: rest =>
      if range.1 ≤ b.toNat ∧ b.toNat ≤ range.2 then some (b.toNat % 64, rest) else none

/-- Extends a value by as many continuation bytes as asked; at the first byte that is none, the
bytes from there on are given back. -/
def continueValue (value : Nat) : Nat → Nat × Nat → Bytes → Option Nat × Bytes
  | 0, _, bytes => (some value, bytes)
  | count + 1, range, bytes =>
      match continuation? range bytes with
      | none => (none, bytes)
      | some (bits, rest) => continueValue (value * 64 + bits) count (0x80, 0xbf) rest

/-- The character that a lead byte begins, if it does, and the bytes after the run. -/
def firstChar (lead : UInt8) (rest : Bytes) : Option Char × Bytes :=
  let b := lead.toNat
  if b < 0x80 then (some (Char.ofNat b), rest)
  else
    let (value, rest) :=
      if 0xc2 ≤ b ∧ b ≤ 0xdf then continueValue (b % 32) 1 (0x80, 0xbf) rest
      else if 0xe0 ≤ b ∧ b ≤ 0xef then continueValue (b % 16) 2 (secondByteRange b) rest
      else if 0xf0 ≤ b ∧ b ≤ 0xf4 then continueValue (b % 8) 3 (secondByteRange b) rest
      else (none, rest)
    (value.map Char.ofNat, rest)

theorem length_continuation? {range : Nat × Nat} {bytes rest : Bytes} {bits : Nat}
    (h : continuation? range bytes = some (bits, rest)) : rest.length < bytes.length := by
  cases bytes with
  | nil => simp [continuation?] at h
  | cons b more =>
      simp only [continuation?] at h
      split at h
      · cases h
        simp
      · simp at h

theorem length_continueValue (count value : Nat) (range : Nat × Nat) (bytes : Bytes) :
    (continueValue value count range bytes).2.length ≤ bytes.length := by
  induction count generalizing value range bytes with
  | zero => simp [continueValue]
  | succ count ih =>
      simp only [continueValue]
      split
      · simp
      · rename_i bits rest h
        exact Nat.le_trans (ih _ _ _) (Nat.le_of_lt (length_continuation? h))

theorem length_firstChar (lead : UInt8) (rest : Bytes) :
    (firstChar lead rest).2.length ≤ rest.length := by
  simp only [firstChar]
  split
  · simp
  · split
    · exact length_continueValue _ _ _ _
    · split
      · exact length_continueValue _ _ _ _
      · split
        · exact length_continueValue _ _ _ _
        · simp

/-- Every well-formed character, and one replacement for each ill-formed run. -/
def decodeLossy : Bytes → List Char
  | [] => []
  | lead :: rest =>
      have := length_firstChar lead rest
      (firstChar lead rest).1.getD replacement :: decodeLossy (firstChar lead rest).2
  termination_by bytes => bytes.length
  decreasing_by simp only [List.length_cons]; omega

/-- The characters of well-formed bytes. -/
def decode? : Bytes → Option (List Char)
  | [] => some []
  | lead :: rest =>
      have := length_firstChar lead rest
      match (firstChar lead rest).1 with
      | none => none
      | some c => (decode? (firstChar lead rest).2).map (c :: ·)
  termination_by bytes => bytes.length
  decreasing_by simp only [List.length_cons]; omega

/-- The bytes of a text. -/
def encode (s : String) : Bytes :=
  s.toUTF8.toList

/-- The text of well-formed bytes. -/
def ofBytes? (bytes : Bytes) : Option String :=
  (decode? bytes).map String.ofList

/-- The text that bytes show as. -/
def ofBytesLossy (bytes : Bytes) : String :=
  String.ofList (decodeLossy bytes)

end JetStream.Text

import JetStream.Text.Utf8

/-!
# Text read back from its bytes

Every text is read back from the bytes that encode it (`ofBytes?_encode`), by the lenient reading
too (`ofBytesLossy_encode`).

## Strategy

A character is encoded in one to four bytes.  `firstChar_utf8EncodeChar` reads back one character
whatever follows it, and the rest is induction on the characters.  Within a character, every byte
after the lead byte adds six bits (`continueValue_cons`).  The byte after the lead byte has a
narrower range than the others, which keeps out longer forms of smaller characters and surrogates;
`secondByteRange_three` and `secondByteRange_four` say that a character never leaves it.
-/

namespace JetStream.Text

/-! ## The bytes after the lead byte -/

/-- The byte for six bits of a character. -/
def continuationByte (n : Nat) : UInt8 :=
  UInt8.ofNat (n % 64 + 0x80)

theorem toNat_ofNat {n : Nat} (h : n < 256) : (UInt8.ofNat n).toNat = n :=
  UInt8.toNat_ofNat_of_lt' h

theorem continuation?_cons {range : Nat × Nat} {n : Nat} (rest : Bytes)
    (h : range.1 ≤ n % 64 + 0x80 ∧ n % 64 + 0x80 ≤ range.2) :
    continuation? range (continuationByte n :: rest) = some (n % 64, rest) := by
  have hbyte : (continuationByte n).toNat = n % 64 + 0x80 := toNat_ofNat (by omega)
  have hbits : (n % 64 + 0x80) % 64 = n % 64 := by omega
  rw [continuation?, hbyte, if_pos h, hbits]

theorem continueValue_cons {range : Nat × Nat} {n : Nat} (value count : Nat) (rest : Bytes)
    (h : range.1 ≤ n % 64 + 0x80 ∧ n % 64 + 0x80 ≤ range.2) :
    continueValue value (count + 1) range (continuationByte n :: rest) =
      continueValue (value * 64 + n % 64) count (0x80, 0xbf) rest := by
  rw [continueValue, continuation?_cons rest h]

theorem secondByteRange_three {n : Nat} (hlow : 0x7ff < n) (hhigh : n ≤ 0xffff)
    (hvalid : n < 0xd800 ∨ 0xdfff < n) :
    (secondByteRange (n / 4096 % 16 + 0xe0)).1 ≤ n / 64 % 64 + 0x80 ∧
      n / 64 % 64 + 0x80 ≤ (secondByteRange (n / 4096 % 16 + 0xe0)).2 := by
  unfold secondByteRange
  split
  next =>
    show 0xa0 ≤ _ ∧ _ ≤ 0xbf
    omega
  next =>
    split
    next =>
      show 0x80 ≤ _ ∧ _ ≤ 0x9f
      omega
    next =>
      rw [if_neg (by omega), if_neg (by omega)]
      show 0x80 ≤ _ ∧ _ ≤ 0xbf
      omega

theorem secondByteRange_four {n : Nat} (hlow : 0xffff < n) (hhigh : n < 0x110000) :
    (secondByteRange (n / 262144 % 8 + 0xf0)).1 ≤ n / 4096 % 64 + 0x80 ∧
      n / 4096 % 64 + 0x80 ≤ (secondByteRange (n / 262144 % 8 + 0xf0)).2 := by
  unfold secondByteRange
  rw [if_neg (by omega), if_neg (by omega)]
  split
  next =>
    show 0x90 ≤ _ ∧ _ ≤ 0xbf
    omega
  next =>
    split
    next =>
      show 0x80 ≤ _ ∧ _ ≤ 0x8f
      omega
    next =>
      show 0x80 ≤ _ ∧ _ ≤ 0xbf
      omega

/-! ## One character, by the number of its bytes -/

theorem continuationByte_bounds (n : Nat) : 0x80 ≤ n % 64 + 0x80 ∧ n % 64 + 0x80 ≤ 0xbf := by
  omega

theorem firstChar_one {n : Nat} (h : n ≤ 0x7f) (rest : Bytes) :
    firstChar (UInt8.ofNat n) rest = (some (Char.ofNat n), rest) := by
  simp only [firstChar, toNat_ofNat (show n < 256 by omega)]
  rw [if_pos (by omega)]

theorem firstChar_two {n : Nat} (hlow : 0x7f < n) (hhigh : n ≤ 0x7ff) (rest : Bytes) :
    firstChar (UInt8.ofNat (n / 64 % 32 + 0xc0)) (continuationByte n :: rest) =
      (some (Char.ofNat n), rest) := by
  have hlead : (n / 64 % 32 + 0xc0) % 32 = n / 64 := by omega
  have hvalue : n / 64 * 64 + n % 64 = n := by omega
  simp only [firstChar, toNat_ofNat (show n / 64 % 32 + 0xc0 < 256 by omega)]
  rw [if_neg (by omega), if_pos (by omega), hlead,
    continueValue_cons _ _ _ (continuationByte_bounds n), hvalue]
  rfl

theorem firstChar_three {n : Nat} (hlow : 0x7ff < n) (hhigh : n ≤ 0xffff)
    (hvalid : n < 0xd800 ∨ 0xdfff < n) (rest : Bytes) :
    firstChar (UInt8.ofNat (n / 4096 % 16 + 0xe0))
        (continuationByte (n / 64) :: continuationByte n :: rest) =
      (some (Char.ofNat n), rest) := by
  have hlead : (n / 4096 % 16 + 0xe0) % 16 = n / 4096 := by omega
  have hvalue : (n / 4096 * 64 + n / 64 % 64) * 64 + n % 64 = n := by omega
  simp only [firstChar, toNat_ofNat (show n / 4096 % 16 + 0xe0 < 256 by omega)]
  rw [if_neg (by omega), if_neg (by omega), if_pos (by omega), hlead,
    continueValue_cons _ _ _ (secondByteRange_three hlow hhigh hvalid),
    continueValue_cons _ _ _ (continuationByte_bounds n), hvalue]
  rfl

theorem firstChar_four {n : Nat} (hlow : 0xffff < n) (hhigh : n < 0x110000) (rest : Bytes) :
    firstChar (UInt8.ofNat (n / 262144 % 8 + 0xf0))
        (continuationByte (n / 4096) :: continuationByte (n / 64) :: continuationByte n :: rest) =
      (some (Char.ofNat n), rest) := by
  have hlead : (n / 262144 % 8 + 0xf0) % 8 = n / 262144 := by omega
  have hvalue : ((n / 262144 * 64 + n / 4096 % 64) * 64 + n / 64 % 64) * 64 + n % 64 = n := by
    omega
  simp only [firstChar, toNat_ofNat (show n / 262144 % 8 + 0xf0 < 256 by omega)]
  rw [if_neg (by omega), if_neg (by omega), if_neg (by omega), if_pos (by omega), hlead,
    continueValue_cons _ _ _ (secondByteRange_four hlow hhigh),
    continueValue_cons _ _ _ (continuationByte_bounds (n / 64)),
    continueValue_cons _ _ _ (continuationByte_bounds n), hvalue]
  rfl

theorem firstChar_utf8EncodeChar (c : Char) (rest : Bytes) :
    ∃ lead more, String.utf8EncodeChar c = lead :: more ∧
      firstChar lead (more ++ rest) = (some c, rest) := by
  have hvalid : c.toNat < 0xd800 ∨ 0xdfff < c.toNat ∧ c.toNat < 0x110000 := c.valid
  have hchar : some c = some (Char.ofNat c.toNat) := congrArg some (Char.ofNat_toNat c).symm
  rw [hchar]
  unfold String.utf8EncodeChar
  rw [show c.val.toNat = c.toNat from rfl]
  dsimp only
  split
  next hone => exact ⟨_, _, rfl, firstChar_one hone rest⟩
  next hone =>
    split
    next htwo => exact ⟨_, _, rfl, firstChar_two (Nat.lt_of_not_le hone) htwo rest⟩
    next htwo =>
      split
      next hthree =>
        exact ⟨_, _, rfl, firstChar_three (Nat.lt_of_not_le htwo) hthree (by omega) rest⟩
      next hthree =>
        exact ⟨_, _, rfl, firstChar_four (Nat.lt_of_not_le hthree) (by omega) rest⟩

/-! ## A whole text -/

theorem toList_loop (bytes : ByteArray) (i : Nat) (read : List UInt8) :
    ByteArray.toList.loop bytes i read = read.reverse ++ bytes.data.toList.drop i := by
  fun_induction ByteArray.toList.loop bytes i read with
  | case1 i read hi ih =>
      have hlength : i < bytes.data.toList.length := hi
      rw [ih, List.drop_eq_getElem_cons hlength]
      simp [ByteArray.get!, hi]
  | case2 i read hi =>
      rw [List.drop_eq_nil_of_le (Nat.le_of_not_lt hi), List.append_nil]

theorem encode_eq_flatMap (s : String) : encode s = s.toList.flatMap String.utf8EncodeChar := by
  have hdata : s.toUTF8 = (s.toList.flatMap String.utf8EncodeChar).toByteArray :=
    (String.utf8Encode_toList (b := s)).symm
  rw [encode, hdata, ByteArray.toList, toList_loop, List.toList_data_toByteArray]
  rfl

theorem decode?_flatMap (cs : List Char) :
    decode? (cs.flatMap String.utf8EncodeChar) = some cs := by
  induction cs with
  | nil => simp [decode?]
  | cons c cs ih =>
      obtain ⟨lead, more, hbytes, hfirst⟩ :=
        firstChar_utf8EncodeChar c (cs.flatMap String.utf8EncodeChar)
      rw [List.flatMap_cons, hbytes, List.cons_append, decode?]
      simp only [hfirst, ih, Option.map_some]

theorem decodeLossy_flatMap (cs : List Char) :
    decodeLossy (cs.flatMap String.utf8EncodeChar) = cs := by
  induction cs with
  | nil => simp [decodeLossy]
  | cons c cs ih =>
      obtain ⟨lead, more, hbytes, hfirst⟩ :=
        firstChar_utf8EncodeChar c (cs.flatMap String.utf8EncodeChar)
      rw [List.flatMap_cons, hbytes, List.cons_append, decodeLossy]
      simp only [hfirst, ih, Option.getD_some]

/-- Every text is read back from its bytes. -/
theorem ofBytes?_encode (s : String) : ofBytes? (encode s) = some s := by
  rw [ofBytes?, encode_eq_flatMap, decode?_flatMap, Option.map_some, String.ofList_toList]

/-- The lenient reading replaces nothing in well-formed bytes. -/
theorem ofBytesLossy_encode (s : String) : ofBytesLossy (encode s) = s := by
  rw [ofBytesLossy, encode_eq_flatMap, decodeLossy_flatMap, String.ofList_toList]

end JetStream.Text

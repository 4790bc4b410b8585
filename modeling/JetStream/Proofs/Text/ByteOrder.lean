import JetStream.Proofs.Text.Utf8

/-!
# The order of bytes

Texts are compared character by character, and their bytes byte by byte.  The two orders are one:
`encode_lt_encode_iff`.

## Strategy

Of two characters the lesser one is encoded in no more bytes.  If it is encoded in fewer, the lead
bytes tell the two apart, because the ranges of lead bytes ascend with the number of bytes.
Otherwise both are numbers with as many digits to the base 64, and the first digit in which they
differ decides.  Either way the bytes differ before the end of the shorter row, so it does not
matter what follows (`utf8EncodeChar_append_lt`).
-/

namespace JetStream.Text

/-! ## One character -/

private theorem ofNat_cons_lt {m n : Nat} {x y : Bytes} (hm : m < 256) (hn : n < 256) (hle : m ≤ n)
    (hrest : m = n → x < y) : UInt8.ofNat m :: x < UInt8.ofNat n :: y := by
  rw [List.cons_lt_cons_iff]
  rcases Nat.lt_or_eq_of_le hle with hlt | rfl
  · left
    rw [UInt8.lt_iff_toNat_lt, toNat_ofNat hm, toNat_ofNat hn]
    exact hlt
  · exact .inr ⟨rfl, hrest rfl⟩

/-- The bytes of the lesser character come first, whatever follows. -/
theorem utf8EncodeChar_append_lt {c d : Char} (h : c < d) (x y : Bytes) :
    String.utf8EncodeChar c ++ x < String.utf8EncodeChar d ++ y := by
  have hlt : c.val.toNat < d.val.toNat := h
  have hbound : d.val.toNat < 0x110000 := by
    have hvalid : d.val.toNat < 0xd800 ∨ 0xdfff < d.val.toNat ∧ d.val.toNat < 0x110000 := d.valid
    omega
  unfold String.utf8EncodeChar
  dsimp only
  generalize c.val.toNat = m at hlt
  generalize d.val.toNat = n at hlt hbound
  split
  case isTrue hone =>
    split
    · apply ofNat_cons_lt <;> omega
    · split
      · apply ofNat_cons_lt <;> omega
      · split
        · apply ofNat_cons_lt <;> omega
        · apply ofNat_cons_lt <;> omega
  case isFalse hone =>
    rw [if_neg (show ¬n ≤ 0x7f by omega)]
    split
    case isTrue htwo =>
      split
      · refine ofNat_cons_lt (by omega) (by omega) (by omega) fun hlead => ?_
        apply ofNat_cons_lt <;> omega
      · split
        · apply ofNat_cons_lt <;> omega
        · apply ofNat_cons_lt <;> omega
    case isFalse htwo =>
      rw [if_neg (show ¬n ≤ 0x7ff by omega)]
      split
      case isTrue hthree =>
        split
        · refine ofNat_cons_lt (by omega) (by omega) (by omega) fun hlead => ?_
          refine ofNat_cons_lt (by omega) (by omega) (by omega) fun hsecond => ?_
          apply ofNat_cons_lt <;> omega
        · apply ofNat_cons_lt <;> omega
      case isFalse hthree =>
        rw [if_neg (show ¬n ≤ 0xffff by omega)]
        refine ofNat_cons_lt (by omega) (by omega) (by omega) fun hlead => ?_
        refine ofNat_cons_lt (by omega) (by omega) (by omega) fun hsecond => ?_
        refine ofNat_cons_lt (by omega) (by omega) (by omega) fun hthird => ?_
        apply ofNat_cons_lt <;> omega

/-! ## A whole text -/

theorem flatMap_utf8EncodeChar_lt {cs ds : List Char} (h : cs < ds) :
    cs.flatMap String.utf8EncodeChar < ds.flatMap String.utf8EncodeChar := by
  induction h with
  | @nil d ds =>
      obtain ⟨lead, more, hbytes, -⟩ := firstChar_utf8EncodeChar d []
      rw [List.flatMap_nil, List.flatMap_cons, hbytes]
      exact List.nil_lt_cons lead _
  | rel hlt =>
      rw [List.flatMap_cons, List.flatMap_cons]
      exact utf8EncodeChar_append_lt hlt _ _
  | cons _ ih =>
      rw [List.flatMap_cons, List.flatMap_cons]
      exact List.append_left_lt ih

/-- The bytes of two texts are in the order of the texts. -/
theorem encode_lt_encode_iff {s t : String} : encode s < encode t ↔ s < t := by
  have hlt {s t : String} (h : s < t) : encode s < encode t := by
    rw [encode_eq_flatMap, encode_eq_flatMap]
    exact flatMap_utf8EncodeChar_lt (String.lt_iff.mp h)
  constructor
  · intro h
    by_cases hst : s < t
    · exact hst
    · by_cases heq : s = t
      · exact absurd (heq ▸ h) (List.lt_irrefl _)
      · have hts : t < s := Decidable.byContradiction fun hts =>
          heq (String.le_antisymm (String.not_lt.mp hts) (String.not_lt.mp hst))
        exact absurd (List.lt_trans h (hlt hts)) (List.lt_irrefl _)
  · exact hlt

end JetStream.Text

import JetStream.Json.Printer
import JetStream.Json.Written

/-!
# Strings of JSON read back

A character is written as itself or by an escape, and the reader keeps it as one part of the
string: `StringPart.ofChar` says which.  Decoding those parts gives the characters again, so a
string between quotes is read back whatever its characters are.
-/

namespace JetStream.Json

/-- The part of a string as which a written character is read. -/
def StringPart.ofChar (c : Char) : StringPart :=
  if c = '\x08' ∨ c = '\x0c' ∨ c = '\n' ∨ c = '\r' ∨ c = '\t' then .char c
  else if c.toNat < 0x20 then .unit c.toNat
  else .char c

/-- The parts as which a text is read. -/
def stringParts (s : String) : List StringPart :=
  s.toList.map StringPart.ofChar

/-! ## Hexadecimal digits -/

private theorem hexValue?_hexDigit : ∀ n < 16, hexValue? (hexDigit n) = some n := by
  decide

private theorem hexValue4?_control {n : Nat} (h : n < 0x20) :
    hexValue4? '0' '0' (hexDigit (n / 16)) (hexDigit (n % 16)) = some n := by
  have hhigh := hexValue?_hexDigit (n / 16) (by omega)
  have hlow := hexValue?_hexDigit (n % 16) (by omega)
  have hzero : hexValue? '0' = some 0 := by decide
  simp only [hexValue4?, hzero, hhigh, hlow, Option.bind_eq_bind, Option.bind_some]
  exact congrArg some (by omega)

/-! ## Reading what was escaped -/

private theorem readString_plain {c : Char} {rest more : List Char} {parts : List StringPart}
    (hquote : c ≠ '"') (hslash : c ≠ '\\') (hcontrol : 0x20 ≤ c.toNat)
    (h : readString rest = some (parts, more)) :
    readString (c :: rest) = some (.char c :: parts, more) := by
  rw [readString.eq_def]
  split <;> simp_all

private theorem readString_short {c e : Char} {rest more : List Char} {parts : List StringPart}
    (he : shortEscape? e = some c) (h : readString rest = some (parts, more)) :
    readString ('\\' :: e :: rest) = some (.char c :: parts, more) := by
  have hu : e ≠ 'u' := by
    rintro rfl
    simp [shortEscape?] at he
  rw [readString.eq_def]
  split
  case h_5 hne heq =>
    cases heq
    exact absurd rfl (hne e rest rfl)
  all_goals simp_all

private theorem readString_control {c : Char} {rest more : List Char} {parts : List StringPart}
    (hcontrol : c.toNat < 0x20) (h : readString rest = some (parts, more)) :
    readString ('\\' :: 'u' :: '0' :: '0' :: hexDigit (c.toNat / 16) :: hexDigit (c.toNat % 16) ::
      rest) = some (.unit c.toNat :: parts, more) := by
  simp [readString, hexValue4?_control hcontrol, h]

theorem readString_escape (c : Char) {rest more : List Char} {parts : List StringPart}
    (h : readString rest = some (parts, more)) :
    readString (escape c ++ rest) = some (StringPart.ofChar c :: parts, more) := by
  by_cases hshort :
      c = '"' ∨ c = '\\' ∨ c = '\x08' ∨ c = '\x0c' ∨ c = '\n' ∨ c = '\r' ∨ c = '\t'
  · rcases hshort with rfl | rfl | rfl | rfl | rfl | rfl | rfl <;>
      exact readString_short rfl h
  · simp only [not_or] at hshort
    obtain ⟨hquote, hslash, hb, hf, hn, hr, ht⟩ := hshort
    by_cases hcontrol : c.toNat < 0x20
    · simpa [escape, StringPart.ofChar, hquote, hslash, hb, hf, hn, hr, ht, hcontrol] using
        readString_control hcontrol h
    · simpa [escape, StringPart.ofChar, hquote, hslash, hb, hf, hn, hr, ht, hcontrol] using
        readString_plain hquote hslash (Nat.le_of_not_lt hcontrol) h

/-- A string is read up to its closing quote, whatever follows. -/
theorem readString_stringChars (s : String) (rest : List Char) :
    readString (s.toList.flatMap escape ++ '"' :: rest) = some (stringParts s, rest) := by
  unfold stringParts
  induction s.toList with
  | nil => simp [readString]
  | cons c cs ih =>
      rw [List.flatMap_cons, List.append_assoc, List.map_cons]
      exact readString_escape c ih

/-! ## Decoding the parts -/

private theorem decodeString?_ofChar (c : Char) (parts : List StringPart) :
    decodeString? (StringPart.ofChar c :: parts) = (decodeString? parts).map (c :: ·) := by
  unfold StringPart.ofChar
  split
  · rfl
  · split
    · rename_i hcontrol
      have hlow : c.toNat < 0xd800 := by omega
      rw [decodeString?.eq_def]
      simp [hlow]
    · rfl

@[simp] theorem string?_stringParts (s : String) : string? (stringParts s) = some s := by
  have hdecode : ∀ cs : List Char, decodeString? (cs.map StringPart.ofChar) = some cs := by
    intro cs
    induction cs with
    | nil => rfl
    | cons c cs ih => rw [List.map_cons, decodeString?_ofChar, ih, Option.map_some]
  simp [string?, stringParts, hdecode]

end JetStream.Json

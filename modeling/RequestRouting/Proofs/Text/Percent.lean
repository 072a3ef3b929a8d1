import Mathlib.Data.List.Forall2
import RequestRouting.Text.Percent
import RequestRouting.Proofs.Text.Utf8

/-!
# Reading percent encoding

A text has many percent encodings (`Spells`): each character is written as itself or by its bytes,
with digits of either case, and a space can be a plus sign. All of them are read as this text
(`decodePercent_of_spells`).
-/

namespace RequestRouting.Text

/-! ## Encodings -/

/-- Whether a character is the hexadecimal digit of a number below 16, of either case. -/
def IsHexDigit (n : Nat) (c : Char) : Prop :=
  c = n.digitChar ∨ c = n.digitChar.toUpper

/-- Whether a text is a percent sign and the two digits of a byte. -/
def Escapes (byte : UInt8) (written : List Char) : Prop :=
  ∃ high low, IsHexDigit (byte.toNat / 16) high ∧ IsHexDigit (byte.toNat % 16) low ∧
    written = ['%', high, low]

/-- The ways to write a character, where those in `reserved` do not stand for themselves. -/
inductive SpellsChar (reserved : List Char) : Char → List Char → Prop where
  | itself {c} (free : c ∉ reserved) : SpellsChar reserved c [c]
  | escaped {c parts} (bytes : List.Forall₂ Escapes (String.utf8EncodeChar c) parts) :
    SpellsChar reserved c parts.flatten
  | plus : SpellsChar reserved ' ' ['+']

/-- The ways to write a text. -/
inductive Spells (reserved : List Char) : List Char → List Char → Prop where
  | nil : Spells reserved [] []
  | cons {c part text written} (first : SpellsChar reserved c part)
    (others : Spells reserved text written) : Spells reserved (c :: text) (part ++ written)

/-- Whether a character is a letter or digit of one byte, which is read as a hexadecimal digit and
not as a sign. -/
def IsReadAs (n : Nat) (c : Char) : Prop :=
  c.isAlphanum = true ∧ String.utf8EncodeChar c = [.ofNat c.toNat] ∧
    hexByte? (.ofNat c.toNat) = some n ∧ UInt8.ofNat c.toNat ≠ 0x2B

theorem isReadAs_of_isHexDigit {n : Nat} {c : Char} (small : n < 16) (digit : IsHexDigit n c) :
    IsReadAs n c := by
  have digits : ∀ n < 16, IsReadAs n n.digitChar ∧ IsReadAs n n.digitChar.toUpper := by
    unfold IsReadAs
    decide +kernel
  rcases digit with rfl | rfl
  · exact (digits n small).1
  · exact (digits n small).2

theorem toNat_div_lt (byte : UInt8) : byte.toNat / 16 < 16 := by
  have := byte.toNat_lt
  omega

/-- Escapes consist of percent signs and digits. -/
theorem mem_of_escapes {bytes : List UInt8} {parts : List (List Char)} {c : Char}
    (escapes : List.Forall₂ Escapes bytes parts) (member : c ∈ parts.flatten) :
    c = '%' ∨ c.isAlphanum = true := by
  induction escapes with
  | nil => exact absurd member List.not_mem_nil
  | @cons byte part _ _ first _ ih =>
      obtain ⟨high, low, highDigit, lowDigit, rfl⟩ := first
      rcases List.mem_append.1 member with here | later
      · obtain rfl | rfl | rfl : c = '%' ∨ c = high ∨ c = low := by simpa using here
        · exact .inl rfl
        · exact .inr (isReadAs_of_isHexDigit (toNat_div_lt byte) highDigit).1
        · exact .inr (isReadAs_of_isHexDigit (Nat.mod_lt _ (by decide)) lowDigit).1
      · exact ih later

/-- A mark that is reserved does not occur in what is written, unless it marks an escape or a space
or is a digit. -/
theorem not_mem_of_spells {reserved text written : List Char} {mark : Char}
    (spells : Spells reserved text written) (isReserved : mark ∈ reserved)
    (other : mark ∉ ['%', '+']) (noDigit : mark.isAlphanum = false) : mark ∉ written := by
  induction spells with
  | nil => exact List.not_mem_nil
  | cons first _ ih =>
      refine fun member => (List.mem_append.1 member).elim (fun here => ?_) ih
      cases first with
      | itself free => exact free (List.mem_singleton.1 here ▸ isReserved)
      | escaped bytes =>
          rcases mem_of_escapes bytes here with rfl | digit
          · exact other List.mem_cons_self
          · exact absurd (digit.symm.trans noDigit) (by decide)
      | plus => exact other (List.mem_cons_of_mem _ here)

/-! ## Bytes -/

section

variable {bytes rest : List UInt8} {first second byte : UInt8}

theorem decodeBytes_cons (noEscape : byte ≠ 0x25) (noPlus : byte ≠ 0x2B) (rest : List UInt8) :
    decodeBytes (byte :: rest) = byte :: decodeBytes rest := by
  rw [decodeBytes]
  · exact fun _ _ _ same => absurd same noEscape
  · exact noPlus

theorem decodeBytes_append (plain : ∀ byte ∈ bytes, byte ≠ 0x25 ∧ byte ≠ 0x2B)
    (rest : List UInt8) : decodeBytes (bytes ++ rest) = bytes ++ decodeBytes rest := by
  induction bytes with
  | nil => rfl
  | cons byte bytes ih =>
      obtain ⟨⟨noEscape, noPlus⟩, others⟩ := List.forall_mem_cons.1 plain
      rw [List.cons_append, decodeBytes_cons noEscape noPlus, ih others, List.cons_append]

theorem decodeBytes_escaped (escaped : escapedByte? first second = some byte)
    (rest : List UInt8) :
    decodeBytes (0x25 :: first :: second :: rest) = byte :: decodeBytes rest := by
  rw [decodeBytes, escaped]

/-- The bytes of a character are those of ASCII characters only if it is one. -/
theorem toNat_of_mem_utf8EncodeChar {c : Char} (member : byte ∈ String.utf8EncodeChar c) :
    byte.toNat = c.toNat ∨ 128 ≤ byte.toNat := by
  have large (n : Nat) (least : 128 ≤ n) (greatest : n < 256) : 128 ≤ (UInt8.ofNat n).toNat := by
    rwa [toNat_ofNat greatest]
  simp only [String.utf8EncodeChar] at member
  split at member
  · rename_i ascii
    obtain rfl := List.mem_singleton.1 member
    exact .inl (toNat_ofNat (by omega))
  · refine .inr ?_
    grind

theorem ne_of_mem_utf8EncodeChar {c mark : Char} (ascii : mark.toNat < 128) (other : c ≠ mark)
    (member : byte ∈ String.utf8EncodeChar c) : byte ≠ .ofNat mark.toNat := by
  rintro rfl
  rcases toNat_of_mem_utf8EncodeChar member with same | large
  · rw [toNat_ofNat (by omega)] at same
    exact other (Char.toNat_inj.1 same.symm)
  · rw [toNat_ofNat (by omega)] at large
    omega

theorem encodeUtf8_append (cs more : List Char) :
    encodeUtf8 (cs ++ more) = encodeUtf8 cs ++ encodeUtf8 more :=
  List.flatMap_append

/-- Escapes are read as the bytes that they stand for. -/
theorem decodeBytes_of_escapes {parts : List (List Char)}
    (escapes : List.Forall₂ Escapes bytes parts) (rest : List UInt8) :
    decodeBytes (encodeUtf8 parts.flatten ++ rest) = bytes ++ decodeBytes rest := by
  induction escapes with
  | nil => rfl
  | @cons byte part _ _ first _ ih =>
      obtain ⟨high, low, highDigit, lowDigit, rfl⟩ := first
      obtain ⟨-, highByte, highValue, noPlus⟩ :=
        isReadAs_of_isHexDigit (toNat_div_lt byte) highDigit
      obtain ⟨-, lowByte, lowValue, -⟩ :=
        isReadAs_of_isHexDigit (Nat.mod_lt _ (by decide)) lowDigit
      have escaped : escapedByte? (.ofNat high.toNat) (.ofNat low.toNat) = some byte := by
        have halves : escapedByte? (.ofNat high.toNat) (.ofNat low.toNat) =
            some (.ofNat (byte.toNat / 16 * 16 + byte.toNat % 16)) := by
          simp [escapedByte?, lowValue, if_neg noPlus, highValue]
        rw [halves, Nat.div_add_mod', UInt8.ofNat_toNat]
      have written : encodeUtf8 ['%', high, low] =
          [0x25, .ofNat high.toNat, .ofNat low.toNat] := by
        simp [encodeUtf8, highByte, lowByte]
        rfl
      rw [List.flatten_cons, encodeUtf8_append, written, List.append_assoc]
      exact (decodeBytes_escaped escaped _).trans (congrArg (byte :: ·) ih)

end

/-! ## Texts -/

section

variable {reserved text written : List Char}

/-- What a character is written as is read as its bytes. -/
theorem decodeBytes_of_spellsChar {c : Char} {part : List Char}
    (reservesMarks : '%' ∈ reserved ∧ '+' ∈ reserved) (spells : SpellsChar reserved c part)
    (rest : List UInt8) :
    decodeBytes (encodeUtf8 part ++ rest) = String.utf8EncodeChar c ++ decodeBytes rest := by
  cases spells with
  | itself free =>
      have noEscape : c ≠ '%' := fun same => free (same ▸ reservesMarks.1)
      have noPlus : c ≠ '+' := fun same => free (same ▸ reservesMarks.2)
      have plain : ∀ byte ∈ String.utf8EncodeChar c, byte ≠ 0x25 ∧ byte ≠ 0x2B :=
        fun byte member => ⟨ne_of_mem_utf8EncodeChar (by decide) noEscape member,
          ne_of_mem_utf8EncodeChar (by decide) noPlus member⟩
      rw [encodeUtf8, List.flatMap_singleton, decodeBytes_append plain]
  | escaped bytes => exact decodeBytes_of_escapes bytes rest
  | plus => rfl

/-- Whatever encoding of a text is read, the text is found. -/
theorem decodePercent_of_spells (reservesMarks : '%' ∈ reserved ∧ '+' ∈ reserved)
    (spells : Spells reserved text written) : decodePercent written = text := by
  have bytes : decodeBytes (encodeUtf8 written) = encodeUtf8 text := by
    induction spells with
    | nil => rfl
    | cons first _ ih =>
        rw [encodeUtf8_append, decodeBytes_of_spellsChar reservesMarks first, ih]
        rfl
  rw [decodePercent, bytes, decodeUtf8_encodeUtf8]

end

end RequestRouting.Text

import Mathlib.Data.List.Infix
import RequestRouting.Proofs.Text.Percent

/-!
# Reading text without escapes

A percent sign that two hexadecimal digits do not follow stands for itself. There is one exception:
the number behind a percent sign may carry a plus sign, so that `%+A` is the character of number 10.
Apart from this, a text without escapes is read with each plus sign as a space and is otherwise
unchanged (`decodePercent_of_unescaped`, `readSigned_eq_iff`).
-/

namespace RequestRouting.Text

/-! ## Digits -/

/-- The hexadecimal digits. -/
def hexDigits : List Char :=
  ['0', '1', '2', '3', '4', '5', '6', '7', '8', '9',
    'a', 'b', 'c', 'd', 'e', 'f', 'A', 'B', 'C', 'D', 'E', 'F']

/-- Whether a percent sign and two hexadecimal digits stand in a text. -/
def HoldsEscape (cs : List Char) : Prop :=
  ∃ high ∈ hexDigits, ∃ low ∈ hexDigits, ['%', high, low] <:+: cs

/-- Whether a percent sign, a plus sign and a hexadecimal digit stand in a text. -/
def HoldsSigned (cs : List Char) : Prop :=
  ∃ digit ∈ hexDigits, ['%', '+', digit] <:+: cs

instance (cs : List Char) : Decidable (HoldsEscape cs) :=
  decidable_of_iff (hexDigits.any fun high => hexDigits.any fun low => ['%', high, low] <:+: cs)
    (by simp [HoldsEscape])

instance (cs : List Char) : Decidable (HoldsSigned cs) :=
  decidable_of_iff (hexDigits.any fun digit => ['%', '+', digit] <:+: cs) (by simp [HoldsSigned])

/-- The character that a character outside of escapes stands for. -/
def spaced (c : Char) : Char :=
  if c = '+' then ' ' else c

/-- What a text without escapes is read as. -/
def readSigned : List Char → List Char
  | [] => []
  | '%' :: '+' :: digit :: cs =>
    match hexDigit? digit with
    | some n => Char.ofNat n :: readSigned cs
    | none => '%' :: readSigned ('+' :: digit :: cs)
  | c :: cs => spaced c :: readSigned cs

section

variable {c : Char} {n : Nat} {cs : List Char} {a b byte : UInt8} {bytes : List UInt8}

theorem toNat_of_value (value : hexDigit? c = some n) : c.toNat < 128 := by
  have of_le : ∀ greatest : UInt32, greatest.toNat < 128 → c.val ≤ greatest → c.toNat < 128 :=
    fun greatest small le => Nat.lt_of_le_of_lt (UInt32.le_iff_toNat_le.1 le) small
  unfold hexDigit? at value
  split at value
  · rename_i decimal
    simp only [Char.isDigit, Bool.and_eq_true, decide_eq_true_eq] at decimal
    exact of_le _ (by decide) decimal.2
  · split at value
    · rename_i lower
      exact of_le _ (by decide) lower.2
    · split at value
      · rename_i upper
        exact of_le _ (by decide) upper.2
      · simp at value

theorem mem_hexDigits_of_value (value : hexDigit? c = some n) : c ∈ hexDigits ∧ n < 16 := by
  have all : ∀ k < 128, ∀ n ∈ hexDigit? (Char.ofNat k), Char.ofNat k ∈ hexDigits ∧ n < 16 := by
    decide +kernel
  have here := all c.toNat (toNat_of_value value)
  rw [Char.ofNat_toNat] at here
  exact here n value

theorem hexDigit?_isSome_iff : (hexDigit? c).isSome = true ↔ c ∈ hexDigits := by
  constructor
  · intro isSome
    obtain ⟨n, value⟩ := Option.isSome_iff_exists.1 isSome
    exact (mem_hexDigits_of_value value).1
  · have all : hexDigits.all (fun c => (hexDigit? c).isSome) = true := by decide
    exact List.all_eq_true.1 all c

theorem utf8EncodeChar_ascii (ascii : c.toNat < 128) :
    String.utf8EncodeChar c = [.ofNat c.toNat] := by
  have small : c.val.toNat ≤ 127 := Nat.le_of_lt_succ ascii
  simp only [String.utf8EncodeChar, small, if_true]
  rfl

/-- A byte below 128 at the beginning is that of the first character. -/
theorem begins_of_encodeUtf8 (begins : encodeUtf8 cs = byte :: bytes) (ascii : byte.toNat < 128) :
    ∃ c rest, cs = c :: rest ∧ byte.toNat = c.toNat ∧ encodeUtf8 rest = bytes := by
  cases cs with
  | nil => simp [encodeUtf8] at begins
  | cons c rest =>
      rw [encodeUtf8, List.flatMap_cons] at begins
      have filled : String.utf8EncodeChar c ≠ [] := by
        rw [← List.length_pos_iff, String.length_utf8EncodeChar]
        exact Char.utf8Size_pos c
      obtain ⟨first, others, encoded⟩ := List.exists_cons_of_ne_nil filled
      rw [encoded, List.cons_append] at begins
      obtain ⟨rfl, rfl⟩ := List.cons.inj begins
      have same : first.toNat = c.toNat := by
        rcases toNat_of_mem_utf8EncodeChar (encoded ▸ List.mem_cons_self) with same | large
        · exact same
        · omega
      rw [utf8EncodeChar_ascii (same ▸ ascii)] at encoded
      rw [← (List.cons.inj encoded).2]
      exact ⟨c, rest, rfl, same, rfl⟩

theorem of_hexByte? (value : hexByte? byte = some n) :
    byte.toNat < 128 ∧ Char.ofNat byte.toNat ∈ hexDigits := by
  have points : ∀ k < 256, (Char.ofNat k).toNat = k := by decide +kernel
  have ascii := toNat_of_value value
  rw [points _ byte.toNat_lt] at ascii
  exact ⟨ascii, (mem_hexDigits_of_value value).1⟩

/-- Behind a percent sign two characters are read as one byte only if they are digits, where the
first one can be a plus sign. -/
theorem of_escapedByte? (begins : encodeUtf8 cs = a :: b :: bytes)
    (escaped : escapedByte? a b = some byte) :
    ∃ first second rest, cs = first :: second :: rest ∧
      (first = '+' ∨ first ∈ hexDigits) ∧ second ∈ hexDigits := by
  obtain ⟨low, lowValue, value⟩ := Option.bind_eq_some_iff.1 escaped
  have high : a.toNat < 128 ∧ (Char.ofNat a.toNat = '+' ∨ Char.ofNat a.toNat ∈ hexDigits) := by
    split at value
    · rename_i plus
      rw [plus]
      exact ⟨by decide, .inl rfl⟩
    · obtain ⟨high, highValue, -⟩ := Option.bind_eq_some_iff.1 value
      obtain ⟨ascii, digit⟩ := of_hexByte? highValue
      exact ⟨ascii, .inr digit⟩
  obtain ⟨ascii, digit⟩ := of_hexByte? lowValue
  obtain ⟨first, others, rfl, sameFirst, begins⟩ := begins_of_encodeUtf8 begins high.1
  obtain ⟨second, rest, rfl, sameSecond, -⟩ := begins_of_encodeUtf8 begins ascii
  rw [sameFirst, Char.ofNat_toNat] at high
  rw [sameSecond, Char.ofNat_toNat] at digit
  exact ⟨first, second, rest, rfl, high.2, digit⟩

/-- A percent sign stays if it is not read as an escape. -/
theorem decodeBytes_percent (noEscape : ∀ first second rest, cs = first :: second :: rest →
      (first = '+' ∨ first ∈ hexDigits) → second ∉ hexDigits) :
    decodeBytes (0x25 :: encodeUtf8 cs) = 0x25 :: decodeBytes (encodeUtf8 cs) := by
  match encoded : encodeUtf8 cs with
  | [] => rfl
  | [a] => rfl
  | a :: b :: bytes =>
      rw [decodeBytes]
      split
      · rename_i escaped
        obtain ⟨first, second, rest, whole, high, low⟩ := of_escapedByte? encoded escaped
        exact absurd low (noEscape first second rest whole high)
      · rfl

/-- Behind a plus sign a single digit is read as the number of a character. -/
theorem decodeBytes_signed (value : hexDigit? c = some n) (bytes : List UInt8) :
    decodeBytes (encodeUtf8 ['%', '+', c] ++ bytes) =
      encodeUtf8 [Char.ofNat n] ++ decodeBytes bytes := by
  have ascii := toNat_of_value value
  have points : ∀ k < 16, encodeUtf8 [Char.ofNat k] = [.ofNat k] := by decide +kernel
  have written : encodeUtf8 ['%', '+', c] = [0x25, 0x2B, .ofNat c.toNat] := by
    show [0x25, 0x2B] ++ (String.utf8EncodeChar c ++ []) = _
    rw [utf8EncodeChar_ascii ascii]
    rfl
  have escaped : escapedByte? 0x2B (.ofNat c.toNat) = some (.ofNat n) := by
    have low : hexByte? (.ofNat c.toNat) = some n := by
      rw [hexByte?, toNat_ofNat (by omega), Char.ofNat_toNat, value]
    rw [escapedByte?, low]
    rfl
  rw [written, points n (mem_hexDigits_of_value value).2]
  exact decodeBytes_escaped escaped bytes

end

/-! ## Texts without escapes -/

section

variable {c : Char} {cs more : List Char}

theorem HoldsEscape.mono (holds : HoldsEscape cs) (inside : cs <:+: more) : HoldsEscape more := by
  obtain ⟨high, isHigh, low, isLow, escape⟩ := holds
  exact ⟨high, isHigh, low, isLow, escape.trans inside⟩

theorem decodeBytes_spaced (notPercent : c ≠ '%') (bytes : List UInt8) :
    decodeBytes (encodeUtf8 [c] ++ bytes) =
      String.utf8EncodeChar (spaced c) ++ decodeBytes bytes := by
  have spells : SpellsChar ['%', '+'] (spaced c) [c] := by
    unfold spaced
    split
    · rename_i plus
      rw [plus]
      exact .plus
    · rename_i notPlus
      exact .itself (by simp [notPercent, notPlus])
  exact decodeBytes_of_spellsChar (by decide) spells bytes

/-- The bytes of a text without escapes are read as those of what it is read as. -/
theorem decodeBytes_of_unescaped (noEscape : ¬ HoldsEscape cs) :
    decodeBytes (encodeUtf8 cs) = encodeUtf8 (readSigned cs) := by
  fun_induction readSigned cs with
  | case1 => rfl
  | case2 digit cs n value ih =>
      -- the sign and its number are taken together, and what is left is a part of the text
      have later := ih fun holds => noEscape (holds.mono ⟨['%', '+', digit], [], by simp⟩)
      rw [show '%' :: '+' :: digit :: cs = ['%', '+', digit] ++ cs from rfl, encodeUtf8_append,
        decodeBytes_signed value, later, ← encodeUtf8_append]
      rfl
  | case3 digit cs noDigit ih =>
      have later := ih fun holds => noEscape (holds.mono (List.infix_cons List.infix_rfl))
      have stays : decodeBytes (0x25 :: encodeUtf8 ('+' :: digit :: cs)) =
          0x25 :: decodeBytes (encodeUtf8 ('+' :: digit :: cs)) := by
        refine decodeBytes_percent fun first second rest whole _ isDigit => ?_
        obtain ⟨-, rfl, -⟩ : '+' = first ∧ digit = second ∧ cs = rest := by simpa using whole
        rw [← hexDigit?_isSome_iff, noDigit] at isDigit
        exact Bool.false_ne_true isDigit
      exact stays.trans (congrArg (0x25 :: ·) later)
  | case4 c cs unsigned ih =>
      have later := ih fun holds => noEscape (holds.mono (List.infix_cons List.infix_rfl))
      by_cases percent : c = '%'
      · -- two digits behind the percent sign would be an escape, and a plus sign is another case
        subst percent
        have stays : decodeBytes (0x25 :: encodeUtf8 cs) = 0x25 :: decodeBytes (encodeUtf8 cs) := by
          refine decodeBytes_percent fun first second rest whole isHigh isLow => ?_
          rcases isHigh with rfl | isHigh
          · exact unsigned second rest rfl whole
          · refine noEscape ⟨first, isHigh, second, isLow, List.IsPrefix.isInfix ?_⟩
            exact ⟨rest, by rw [whole]; rfl⟩
        exact stays.trans (congrArg (0x25 :: ·) later)
      · rw [← List.singleton_append, encodeUtf8_append, decodeBytes_spaced percent, later]
        rfl

/-- A text without escapes is read as it is, but for plus signs. -/
theorem decodePercent_of_unescaped (noEscape : ¬ HoldsEscape cs) :
    decodePercent cs = readSigned cs := by
  rw [decodePercent, decodeBytes_of_unescaped noEscape, decodeUtf8_encodeUtf8]

/-! ## Signed numbers -/

theorem holdsSigned_cons : HoldsSigned (c :: cs) ↔
    (∃ digit ∈ hexDigits, ['%', '+', digit] <+: c :: cs) ∨ HoldsSigned cs := by
  simp only [HoldsSigned, List.infix_cons_iff, and_or_left, exists_or]

theorem length_readSigned_le (cs : List Char) : (readSigned cs).length ≤ cs.length := by
  fun_induction readSigned cs with
  | case1 => exact Nat.le_refl 0
  | case2 | case3 | case4 =>
      simp only [List.length_cons] at *
      omega

/-- Where a signed number is read, the text gets shorter. -/
theorem length_readSigned_lt (holds : HoldsSigned cs) : (readSigned cs).length < cs.length := by
  fun_induction readSigned cs with
  | case1 =>
      obtain ⟨digit, _, inside⟩ := holds
      simp at inside
  | case2 digit cs n value ih =>
      have rest := length_readSigned_le cs
      simp only [List.length_cons]
      omega
  | case3 digit cs noDigit ih =>
      rcases holdsSigned_cons.1 holds with ⟨other, isDigit, first⟩ | later
      · obtain rfl : other = digit := by simpa using first
        rw [← hexDigit?_isSome_iff, noDigit] at isDigit
        exact absurd isDigit Bool.false_ne_true
      · exact Nat.succ_lt_succ (ih later)
  | case4 c cs unsigned ih =>
      rcases holdsSigned_cons.1 holds with ⟨digit, _, rest, whole⟩ | later
      · obtain ⟨rfl, rfl⟩ := List.cons.inj whole
        exact absurd rfl (unsigned digit rest rfl)
      · exact Nat.succ_lt_succ (ih later)

/-- Without signed numbers only plus signs are changed. -/
theorem readSigned_of_unsigned (unsigned : ¬ HoldsSigned cs) : readSigned cs = cs.map spaced := by
  fun_induction readSigned cs with
  | case1 => rfl
  | case2 digit cs n value ih =>
      refine absurd ⟨digit, (mem_hexDigits_of_value value).1, ?_⟩ unsigned
      exact ⟨[], cs, rfl⟩
  | case3 digit cs noDigit ih =>
      have later := ih fun holds => unsigned (holdsSigned_cons.2 (.inr holds))
      rw [later]
      rfl
  | case4 c cs _ ih =>
      have later := ih fun holds => unsigned (holdsSigned_cons.2 (.inr holds))
      rw [later]
      rfl

theorem readSigned_eq_iff : readSigned cs = cs.map spaced ↔ ¬ HoldsSigned cs := by
  constructor
  · intro same holds
    have shorter := length_readSigned_lt holds
    rw [same, List.length_map] at shorter
    exact Nat.lt_irrefl _ shorter
  · exact readSigned_of_unsigned

end

end RequestRouting.Text

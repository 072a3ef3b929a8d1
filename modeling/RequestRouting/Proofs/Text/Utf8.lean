import Mathlib.Tactic.SplitIfs
import RequestRouting.Text.Utf8

/-!
# Reading UTF-8 that is well formed

The bytes of a text are read as this text (`decodeUtf8_encodeUtf8`). For each length of a sequence
one lemma says what its first byte announces, and that the second byte is within the bounds that
the first one sets for it.
-/

namespace RequestRouting.Text

theorem toNat_ofNat {n : Nat} (small : n < 256) : (UInt8.ofNat n).toNat = n := by
  rw [UInt8.toNat_ofNat', Nat.mod_eq_of_lt small]

theorem within_ofNat {low high : UInt8} {n : Nat} (small : n < 256) (least : low.toNat ≤ n)
    (greatest : n ≤ high.toNat) : within low high (.ofNat n) = true := by
  simp [within, UInt8.le_iff_toNat_le, Nat.mod_eq_of_lt small, least, greatest]

/-! ## Sequences of bytes -/

section

variable {a b c d low high : UInt8} {bits : Nat}

theorem decodeUtf8_one (leads : lead? a = none) (ascii : a < 0x80) (rest : List UInt8) :
    decodeUtf8 (a :: rest) = Char.ofNat a.toNat :: decodeUtf8 rest := by
  rw [decodeUtf8, leads]
  simp [ascii]

theorem decodeUtf8_two (leads : lead? a = some (2, bits, low, high))
    (second : within low high b = true) (rest : List UInt8) :
    decodeUtf8 (a :: b :: rest) = Char.ofNat (extend bits b) :: decodeUtf8 rest := by
  rw [decodeUtf8, leads]
  simp [second]

theorem decodeUtf8_three (leads : lead? a = some (3, bits, low, high))
    (second : within low high b = true) (third : within 0x80 0xBF c = true) (rest : List UInt8) :
    decodeUtf8 (a :: b :: c :: rest) =
      Char.ofNat (extend (extend bits b) c) :: decodeUtf8 rest := by
  rw [decodeUtf8, leads]
  simp [second, third]

theorem decodeUtf8_four (leads : lead? a = some (4, bits, low, high))
    (second : within low high b = true) (third : within 0x80 0xBF c = true)
    (fourth : within 0x80 0xBF d = true) (rest : List UInt8) :
    decodeUtf8 (a :: b :: c :: d :: rest) =
      Char.ofNat (extend (extend (extend bits b) c) d) :: decodeUtf8 rest := by
  rw [decodeUtf8, leads]
  simp [second, third, fourth]

end

/-! ## The bytes of a code point -/

section

variable {v : Nat}

theorem lead?_one (greatest : v ≤ 127) : lead? (.ofNat v) = none := by
  rw [lead?, toNat_ofNat (by omega)]
  simp only [show v < 0xC2 by omega, if_true]

theorem lead?_two (least : 128 ≤ v) (greatest : v ≤ 2047) :
    lead? (.ofNat (v / 64 % 32 + 192)) = some (2, v / 64, 0x80, 0xBF) := by
  rw [lead?, toNat_ofNat (by omega)]
  grind

/-- The bounds of the second byte exclude forms that are longer than needed, and surrogates. -/
theorem lead?_three (least : 2048 ≤ v) (greatest : v ≤ 65535) (valid : v < 0xD800 ∨ 0xDFFF < v) :
    ∃ low high, lead? (.ofNat (v / 4096 % 16 + 224)) = some (3, v / 4096, low, high) ∧
      low.toNat ≤ v / 64 % 64 + 128 ∧ v / 64 % 64 + 128 ≤ high.toNat := by
  rw [lead?, toNat_ofNat (by omega)]
  obtain zero | surrogates | other :
      v / 4096 % 16 = 0 ∨ v / 4096 % 16 = 0xD ∨ v / 4096 % 16 ≠ 0 ∧ v / 4096 % 16 ≠ 0xD := by omega
  · exact ⟨0xA0, 0xBF, by grind, by simp; omega, by simp; omega⟩
  · exact ⟨0x80, 0x9F, by grind, by simp, by simp; omega⟩
  · exact ⟨0x80, 0xBF, by grind, by simp, by simp; omega⟩

/-- The bounds of the second byte exclude forms that are longer than needed, and code points beyond
the last one. -/
theorem lead?_four (least : 65536 ≤ v) (greatest : v < 0x110000) :
    ∃ low high, lead? (.ofNat (v / 262144 % 8 + 240)) = some (4, v / 262144, low, high) ∧
      low.toNat ≤ v / 4096 % 64 + 128 ∧ v / 4096 % 64 + 128 ≤ high.toNat := by
  rw [lead?, toNat_ofNat (by omega)]
  obtain zero | last | other :
      v / 262144 % 8 = 0 ∨ v / 262144 % 8 = 4 ∨ v / 262144 % 8 ≠ 0 ∧ v / 262144 % 8 < 4 := by omega
  · exact ⟨0x90, 0xBF, by grind, by simp; omega, by simp; omega⟩
  · exact ⟨0x80, 0x8F, by grind, by simp, by simp; omega⟩
  · exact ⟨0x80, 0xBF, by grind, by simp, by simp; omega⟩

/-- A byte behind the first one contributes six bits. -/
theorem extend_ofNat (bits : Nat) {low : Nat} (small : low < 64) :
    extend bits (.ofNat (low + 128)) = bits * 64 + low := by
  have byte : (UInt8.ofNat (low + 128)).toNat = low + 128 := toNat_ofNat (by omega)
  unfold extend
  rw [byte, Nat.add_sub_cancel]

theorem within_following (n : Nat) : within 0x80 0xBF (.ofNat (n % 64 + 128)) = true :=
  within_ofNat (by omega) (by simp) (by simp; omega)

end

/-! ## Texts -/

/-- The bytes of a character are read as this character. -/
theorem decodeUtf8_utf8EncodeChar (c : Char) (rest : List UInt8) :
    decodeUtf8 (String.utf8EncodeChar c ++ rest) = c :: decodeUtf8 rest := by
  obtain ⟨v, same⟩ : ∃ v, c.val.toNat = v := ⟨_, rfl⟩
  have valid : v < 0xD800 ∨ 0xDFFF < v ∧ v < 0x110000 := same ▸ c.valid
  have point : Char.ofNat v = c := same ▸ Char.ofNat_toNat c
  simp only [String.utf8EncodeChar, same]
  rw [← point]
  split_ifs with one two three
  · refine (decodeUtf8_one (lead?_one one) ?_ rest).trans ?_
    · rw [UInt8.lt_iff_toNat_lt, toNat_ofNat (by omega)]
      exact Nat.lt_succ_of_le one
    · rw [toNat_ofNat (by omega)]
  · refine (decodeUtf8_two (lead?_two (by omega) two) (within_following v) rest).trans ?_
    rw [extend_ofNat _ (Nat.mod_lt v (by decide)), Nat.div_add_mod']
  · obtain ⟨low, high, leads, least, greatest⟩ := lead?_three (by omega) three (by omega)
    have second := within_ofNat (by omega) least greatest
    refine (decodeUtf8_three leads second (within_following v) rest).trans ?_
    rw [extend_ofNat _ (Nat.mod_lt _ (by decide)), extend_ofNat _ (Nat.mod_lt _ (by decide))]
    congr 2
    omega
  · obtain ⟨low, high, leads, least, greatest⟩ := lead?_four (v := v) (by omega) (by omega)
    have second := within_ofNat (by omega) least greatest
    refine (decodeUtf8_four leads second (within_following (v / 64)) (within_following v)
      rest).trans ?_
    rw [extend_ofNat _ (Nat.mod_lt _ (by decide)), extend_ofNat _ (Nat.mod_lt _ (by decide)),
      extend_ofNat _ (Nat.mod_lt _ (by decide))]
    congr 2
    omega

/-- The bytes of a text are read as this text. -/
theorem decodeUtf8_encodeUtf8 (cs : List Char) : decodeUtf8 (encodeUtf8 cs) = cs := by
  induction cs with
  | nil => rfl
  | cons c cs ih =>
      rw [encodeUtf8, List.flatMap_cons, decodeUtf8_utf8EncodeChar]
      exact congrArg (c :: ·) ih

end RequestRouting.Text

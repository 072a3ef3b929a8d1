import RequestRouting.Proofs.Text.Cut
import RequestRouting.Proofs.Text.Percent
import RequestRouting.Proofs.Text.Unescaped
import RequestRouting.Request.Basic

/-!
# Reading queries

Every way to write pairs of keys and values as a query (`Request.SpellsQuery`) is read as the map
that gives each key the value that comes last with it (`Request.parseQuery_of_spells`). A single
key in which no percent sign marks an escape is read as it is, with plus signs for spaces, unless it
holds a number with a sign (`Request.parseQuery_of_unescaped`).
-/

namespace RequestRouting

open Text

namespace Request

/-! ## Written queries -/

/-- The characters that do not stand for themselves in a value. -/
def valueMarks : List Char := ['%', '+', '&']

/-- The characters that do not stand for themselves in a key. -/
def keyMarks : List Char := '=' :: valueMarks

/-- The ways to write a key and a value. -/
def SpellsPair (pair : String × String) (written : List Char) : Prop :=
  ∃ key value, Spells keyMarks pair.1.toList key ∧ Spells valueMarks pair.2.toList value ∧
    written = key ++ '=' :: value

/-- The ways to write pairs as a query, with one or more ampersands between two of them. -/
inductive SpellsQuery : List (String × String) → List Char → Prop where
  | nil : SpellsQuery [] []
  | single {pair written} (spells : SpellsPair pair written) : SpellsQuery [pair] written
  | cons {pair next pairs written others} (more : Nat) (spells : SpellsPair pair written)
    (rest : SpellsQuery (next :: pairs) others) :
    SpellsQuery (pair :: next :: pairs) (written ++ List.replicate (more + 1) '&' ++ others)

/-! ## Parts of a query -/

/-- The parts of a query that are read. -/
def parts (query : List Char) : List (List Char) :=
  (query.splitOn '&').filter (!·.isEmpty)

theorem parseQuery_eq (query : List Char) :
    parseQuery query = .ofList ((parts query).map queryPair) := rfl

section

variable {part : List Char}

theorem parts_replicate (count : Nat) (rest : List Char) :
    parts (List.replicate count '&' ++ rest) = parts rest := by
  induction count with
  | zero => rfl
  | succ count ih =>
      rw [← ih, List.replicate_succ, List.cons_append, parts, List.splitOn_cons_eq_if_modifyHead,
        if_pos (by decide)]
      rfl

theorem parts_singleton (full : part ≠ []) (noMark : '&' ∉ part) : parts part = [part] := by
  simp [parts, List.splitOn_eq_singleton noMark, full]

/-- Any number of ampersands separates a part from the rest. -/
theorem parts_cons (full : part ≠ []) (noMark : '&' ∉ part) (more : Nat) (rest : List Char) :
    parts (part ++ List.replicate (more + 1) '&' ++ rest) = part :: parts rest := by
  rw [← parts_replicate more rest, List.replicate_succ, List.append_assoc, List.cons_append, parts,
    List.splitOn_append_cons_self_of_not_mem noMark]
  simp [parts, full]

end

/-- A pair is read from its written form, which is one part of a query. -/
theorem SpellsPair.read {pair : String × String} {written : List Char}
    (spells : SpellsPair pair written) :
    written ≠ [] ∧ '&' ∉ written ∧ queryPair written = pair := by
  obtain ⟨key, value, spellsKey, spellsValue, rfl⟩ := spells
  have noEqual : '=' ∉ key := not_mem_of_spells spellsKey (by decide) (by decide) (by decide)
  have noMark : '&' ∉ key := not_mem_of_spells spellsKey (by decide) (by decide) (by decide)
  have noMark' : '&' ∉ value := not_mem_of_spells spellsValue (by decide) (by decide) (by decide)
  refine ⟨by simp, by simp [noMark, noMark'], ?_⟩
  simp [queryPair, cut?_singleton noEqual,
    decodePercent_of_spells (by decide) spellsKey, decodePercent_of_spells (by decide) spellsValue]

/-- The pairs that a query is written for are read from it. -/
theorem SpellsQuery.read {pairs : List (String × String)} {query : List Char}
    (spells : SpellsQuery pairs query) : (parts query).map queryPair = pairs := by
  induction spells with
  | nil => rfl
  | single spells =>
      obtain ⟨full, noMark, read⟩ := spells.read
      rw [parts_singleton full noMark, List.map_singleton, read]
  | cons more spells _ ih =>
      obtain ⟨full, noMark, read⟩ := spells.read
      rw [parts_cons full noMark, List.map_cons, read, ih]

/-- Every way to write pairs as a query is read as the map that gives each of their keys the value
that comes last with it, and holds each once and no other key. -/
theorem parseQuery_of_spells {pairs : List (String × String)} {query : List Char}
    (spells : SpellsQuery pairs query) :
    (∀ key, (parseQuery query).get? key = pairs.reverse.lookup key) ∧
      (parseQuery query).keys.Nodup ∧
        ∀ key, key ∈ (parseQuery query).keys ↔ ∃ value, (key, value) ∈ pairs := by
  have values : ∀ key, (parseQuery query).get? key = pairs.reverse.lookup key := by
    intro key
    rw [parseQuery_eq, spells.read, Dictionary.get?_ofList]
  refine ⟨values, Dictionary.nodup_keys_ofList _, fun key => ?_⟩
  rw [Dictionary.mem_keys_iff, values, List.lookup_isSome_iff]
  simp

/-- A key is written twice, a space as a plus sign, and a letter by its two bytes. -/
theorem parseQuery_of_repeated_key :
    SpellsQuery [("q", "1"), ("a b", ""), ("q", "ä=")] "q=1&&a+b=&q=%C3%a4=".toList ∧
      (parseQuery "q=1&&a+b=&q=%C3%a4=".toList).get? "q" = some "ä=" ∧
      (parseQuery "q=1&&a+b=&q=%C3%a4=".toList).get? "a b" = some "" ∧
      "ä" ∉ (parseQuery "q=1&&a+b=&q=%C3%a4=".toList).keys := by
  have first : SpellsPair ("q", "1") ['q', '=', '1'] :=
    ⟨['q'], ['1'], .cons (.itself (by decide)) .nil, .cons (.itself (by decide)) .nil, rfl⟩
  have second : SpellsPair ("a b", "") ['a', '+', 'b', '='] :=
    ⟨['a', '+', 'b'], [],
      .cons (.itself (by decide)) (.cons .plus (.cons (.itself (by decide)) .nil)), .nil, rfl⟩
  have bytes : List.Forall₂ Escapes (String.utf8EncodeChar 'ä')
      [['%', 'C', '3'], ['%', 'a', '4']] :=
    .cons ⟨'C', '3', .inr (by decide), .inl (by decide), rfl⟩
      (.cons ⟨'a', '4', .inl (by decide), .inl (by decide), rfl⟩ .nil)
  have third : SpellsPair ("q", "ä=") ['q', '=', '%', 'C', '3', '%', 'a', '4', '='] :=
    ⟨['q'], ['%', 'C', '3', '%', 'a', '4', '='], .cons (.itself (by decide)) .nil,
      .cons (.escaped bytes) (.cons (.itself (by decide)) .nil), rfl⟩
  have spells : SpellsQuery [("q", "1"), ("a b", ""), ("q", "ä=")]
      "q=1&&a+b=&q=%C3%a4=".toList :=
    .cons 1 first (.cons 0 second (.single third))
  obtain ⟨values, distinct, keys⟩ := parseQuery_of_spells spells
  refine ⟨spells, ?_, ?_, ?_⟩
  · rw [values]
    decide
  · rw [values]
    decide
  · rw [keys]
    simp

/-! ## Queries without escapes -/

/-- A text without marks is the key of a single pair. -/
theorem parseQuery_of_key {text : List Char} (full : text ≠ []) (onePart : '&' ∉ text)
    (noValue : '=' ∉ text) :
    parseQuery text = ⟨[(String.ofList (decodePercent text), "")]⟩ := by
  have uncut : cut? ['='] text = none := by
    rw [cut?_eq_none_iff (List.cons_ne_nil _ _), List.singleton_infix_iff]
    exact noValue
  have pair : queryPair text = (String.ofList (decodePercent text), "") := by
    rw [queryPair, uncut]
    rfl
  rw [parseQuery_eq, parts_singleton full onePart, List.map_singleton, pair]
  rfl

/-- A text without marks and escapes is a single key without a value. In it plus signs are read as
spaces, and all else is unchanged, percent signs included, exactly if no percent sign stands before
a plus sign and a digit. -/
theorem parseQuery_of_unescaped {text : List Char} (full : text ≠ []) (onePart : '&' ∉ text)
    (noValue : '=' ∉ text) (noEscape : ¬ HoldsEscape text) :
    parseQuery text = ⟨[(String.ofList (readSigned text), "")]⟩ ∧
      (parseQuery text = ⟨[(String.ofList (text.map spaced), "")]⟩ ↔ ¬ HoldsSigned text) := by
  have read : parseQuery text = ⟨[(String.ofList (readSigned text), "")]⟩ := by
    rw [parseQuery_of_key full onePart noValue, decodePercent_of_unescaped noEscape]
  refine ⟨read, ?_⟩
  rw [read, ← readSigned_eq_iff]
  simp [String.ofList_inj]

/-- Percent signs stand before a letter of two bytes, before another percent sign, before one digit
and at the end. -/
theorem parseQuery_of_percent_signs :
    ¬ HoldsEscape "5%é+%%4z%".toList ∧ ¬ HoldsSigned "5%é+%%4z%".toList ∧
      parseQuery "5%é+%%4z%".toList = ⟨[("5%é %%4z%", "")]⟩ := by
  have noEscape : ¬ HoldsEscape "5%é+%%4z%".toList := by decide +kernel
  have noSigned : ¬ HoldsSigned "5%é+%%4z%".toList := by decide +kernel
  have shown : String.ofList ("5%é+%%4z%".toList.map spaced) = "5%é %%4z%" := by decide
  obtain ⟨-, read⟩ := parseQuery_of_unescaped (by decide) (by decide) (by decide) noEscape
  rw [shown] at read
  exact ⟨noEscape, noSigned, read.2 noSigned⟩

/-- The number behind a percent sign is read with its sign, so that three characters become one. -/
theorem parseQuery_of_signed_digit :
    ("%+A".toList ≠ [] ∧ '&' ∉ "%+A".toList ∧ '=' ∉ "%+A".toList ∧ ¬ HoldsEscape "%+A".toList) ∧
      parseQuery "%+A".toList = ⟨[("\n", "")]⟩ ∧
      parseQuery "%+A".toList ≠ ⟨[(String.ofList ("%+A".toList.map spaced), "")]⟩ := by
  exact ⟨by decide +kernel, by decide +kernel, by decide +kernel⟩

end Request
end RequestRouting

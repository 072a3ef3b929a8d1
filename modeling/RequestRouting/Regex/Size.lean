import RequestRouting.Regex.Basic

/-!
# Sizes of regular expressions

How much memory the automata of an expression take that read the bytes of a text in UTF-8, one of
them forwards and one backwards. An expression is too large if either takes more than 10 MiB. A
state takes 32 bytes; the ways out of a fork take 4 bytes and the ranges of bytes 8 bytes each.
-/

namespace RequestRouting
namespace Regex

/-- The ranges of the digits to base 64 of the numbers from `first` to `last`, of which all but
the leading one are `count`. Numbers with the same leading digits are taken together. -/
def digitRanges : (count first last : Nat) → List (List (Nat × Nat))
  | 0, first, last => [[(first, last)]]
  | count + 1, first, last =>
    let unit := Nat.pow 64 (count + 1)
    let (high, low) := (first / unit, first % unit)
    let (high', low') := (last / unit, last % unit)
    if high = high' then (digitRanges count low low').map ((high, high) :: ·)
    else
      let begun := if low = 0 then [] else
        (digitRanges count low (unit - 1)).map ((high, high) :: ·)
      let ended := if low' = unit - 1 then [] else
        (digitRanges count 0 low').map ((high', high') :: ·)
      let from' := if low = 0 then high else high + 1
      let to' := if low' = unit - 1 then high' else high' - 1
      let whole := if from' ≤ to' then
        [(from', to') :: List.replicate (count + 1) (0, 63)] else []
      begun ++ whole ++ ended

/-- The bounds of the code points whose text in UTF-8 has one to four bytes, without surrogates,
and the number of bytes after the first. -/
def byteLengths : List (Nat × Nat × Nat) :=
  [(0, 0x7F, 0), (0x80, 0x7FF, 1), (0x800, 0xD7FF, 2), (0xE000, 0xFFFF, 2),
    (0x10000, 0x10FFFF, 3)]

/-- The sequences of byte ranges that make up the text of a character in UTF-8. -/
def byteSequences (set : CharSet) : List (List (Nat × Nat)) :=
  set.ranges.flatMap fun (first, last) =>
    byteLengths.flatMap fun (least, most, count) =>
      let (first, last) := (max first least, min last most)
      if first ≤ last then digitRanges count first last else []

/-- How many of the ranges in sequences are not among the beginning of the one before. -/
def freshRanges : (previous : List (Nat × Nat)) → List (List (Nat × Nat)) → Nat
  | _, [] => 0
  | previous, sequence :: sequences =>
    let shared := ((previous.zip sequence).takeWhile fun (a, b) => a == b).length
    let shared := if previous.length = sequence.length then shared else 0
    sequence.length - shared + freshRanges sequence sequences

/-- The bytes that a set of characters takes in an automaton of one direction. -/
def setSize (backwards : Bool) (set : CharSet) : Nat :=
  let sequences := byteSequences set
  match set.ranges, sequences with
  | [], _ => 32
  | [(first, last)], [sequence] =>
    if first = last then 32 * sequence.length else several sequences
  | _, _ => several sequences
where
  /-- The bytes that a choice between sequences of byte ranges takes. -/
  several (sequences : List (List (Nat × Nat))) : Nat :=
    if sequences.all (·.length == 1) || !backwards then 64 + 8 * sequences.length
    else 64 + 4 * sequences.length + 32 * freshRanges [] sequences

/-- The bytes that an expression takes in an automaton of one direction. Only the automaton that
reads forwards has states for groups. -/
def size (backwards : Bool) : Regex → Nat
  | empty => 32
  | char set => setSize backwards set
  | check _ => 32
  | seq first second => first.size backwards + second.size backwards
  | alt first second =>
    first.size backwards + second.size backwards + match second with
      | alt _ _ => 4
      | _ => 72
  | times body 0 none _ => body.size backwards + if body.isNullable then 112 else 40
  | times body least none _ => least * body.size backwards + 40
  | times body least (some most) _ =>
    let once := body.size backwards
    let exact := if least = 0 then if most = 1 then 0 else 32 else least * once
    exact + if least < most then (most - least) * (once + 40) + 32 else 0
  | capture _ body => body.size backwards + if backwards then 0 else 64

/-- Whether the automata of an expression take too much memory. Each has states of its own around
those of the expression. -/
def isTooLarge (r : Regex) : Bool :=
  10 * Nat.pow 2 20 < r.size false + 128 || 10 * Nat.pow 2 20 < r.size true + 64

end Regex
end RequestRouting

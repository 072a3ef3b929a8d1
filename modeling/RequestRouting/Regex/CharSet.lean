import RequestRouting.Text.Blank
import RequestRouting.Text.CaseFold
import RequestRouting.Text.Word

/-!
# Character sets

The sets of characters that a regular expression can ask for: ascending ranges of code points,
with at least one character between each two. The surrogates between U+D7FF and U+E000 are no
characters, so that these two follow one another, and sets with the same characters are equal.
-/

namespace RequestRouting

/-- A set of characters. -/
structure CharSet where
  ranges : List (Nat × Nat)
  deriving DecidableEq

namespace CharSet

/-- The code point of the character after that of `n`. -/
def following (n : Nat) : Nat := if n = 0xD7FF then 0xE000 else n + 1

/-- The code point of the character before that of `n`. -/
def preceding (n : Nat) : Nat := if n = 0xE000 then 0xD7FF else n - 1

/-- Adds a range to ascending ones. It absorbs those that it meets or touches. -/
def insertRange (first last : Nat) : List (Nat × Nat) → List (Nat × Nat)
  | [] => [(first, last)]
  | (first', last') :: ranges =>
    if following last < first' then (first, last) :: (first', last') :: ranges
    else if following last' < first then (first', last') :: insertRange first last ranges
    else insertRange (min first first') (max last last') ranges

/-- The ranges between ascending ones, from `start` on. -/
def gaps : (start : Nat) → List (Nat × Nat) → List (Nat × Nat)
  | start, [] => if start ≤ 0x10FFFF then [(start, 0x10FFFF)] else []
  | start, (first, last) :: ranges =>
    if start < first then (start, preceding first) :: gaps (following last) ranges
    else gaps (following last) ranges

/-- Whether a character is in the set. -/
def contains (set : CharSet) (c : Char) : Bool :=
  Text.inRanges set.ranges c.toNat

/-- The empty set. -/
def none : CharSet := ⟨[]⟩

/-- The characters from `first` to `last`. -/
def range (first last : Char) : CharSet := ⟨[(first.toNat, last.toNat)]⟩

/-- The set of one character. -/
def single (c : Char) : CharSet := range c c

/-- The characters in one of two sets. -/
def union (a b : CharSet) : CharSet :=
  ⟨b.ranges.foldl (fun ranges (first, last) => insertRange first last ranges) a.ranges⟩

/-- The union of several sets. -/
def unions (sets : List CharSet) : CharSet := sets.foldl union none

/-- `\d`: decimal digits, of Unicode or only of ASCII. -/
def digit (unicode : Bool) : CharSet :=
  if unicode then ⟨Text.decimalDigitRanges⟩ else range '0' '9'

/-- `\w`: characters inside words, of Unicode or only of ASCII. -/
def word (unicode : Bool) : CharSet :=
  if unicode then ⟨Text.wordRanges⟩
  else unions [range '0' '9', range 'A' 'Z', single '_', range 'a' 'z']

/-- `\s`: blanks, of Unicode or only of ASCII. -/
def blank (unicode : Bool) : CharSet :=
  if unicode then ⟨Text.blankRanges⟩ else unions [range '\t' '\r', single ' ']

/-- The characters that are not in the set. -/
def complement (a : CharSet) : CharSet := ⟨gaps 0 a.ranges⟩

/-- The characters in both of two sets. -/
def inter (a b : CharSet) : CharSet := complement (union (complement a) (complement b))

/-- The characters of `a` that are not in `b`. -/
def diff (a b : CharSet) : CharSet := inter a (complement b)

/-- The characters in exactly one of two sets. -/
def symmDiff (a b : CharSet) : CharSet := union (diff a b) (diff b a)

/-- Whether all characters of the set are those of ASCII. -/
def isAscii (a : CharSet) : Bool :=
  a.ranges.all (·.2 < 0x80)

/-- The characters equal up to case to one of `a`, by Unicode or only among those of ASCII. -/
def folded (unicode : Bool) (a : CharSet) : CharSet :=
  let pairs := Text.foldPairs.filter fun (c, image) => unicode || (c < 0x80 && image < 0x80)
  let met := pairs.filter fun (c, image) =>
    Text.inRanges a.ranges c || Text.inRanges a.ranges image
  let images := met.map (·.2)
  let forms := pairs.filter fun (_, image) => images.contains image
  ⟨forms.foldl (fun ranges (c, image) => insertRange image image (insertRange c c ranges))
    a.ranges⟩

/-- Every character. -/
def all : CharSet := complement none

/-- Every character but `c`. -/
def except (c : Char) : CharSet := complement (single c)

theorem contains_single {c d : Char} : (single c).contains d = decide (d = c) := by
  have equal_iff : d = c ↔ d.toNat = c.toNat := by
    rw [Char.toNat_inj]
  simp only [single, range, contains, Text.inRanges, equal_iff]
  grind

theorem contains_except {c d : Char} : (except c).contains d = decide (d ≠ c) := by
  have equal_iff : d = c ↔ d.toNat = c.toNat := by
    rw [Char.toNat_inj]
  have valid := d.valid
  simp only [UInt32.isValidChar, Nat.isValidChar] at valid
  have same : d.val.toNat = d.toNat := rfl
  simp only [except, complement, single, range, contains, gaps, following, preceding, equal_iff,
    ne_eq]
  grind [Text.inRanges]

/-- A text of characters other than one is a text without this character. -/
theorem forall_contains_except {c : Char} {text : List Char} :
    (∀ d ∈ text, (except c).contains d = true) ↔ c ∉ text := by
  simp only [contains_except, decide_eq_true_eq]
  exact ⟨fun others member => others c member rfl, fun absent d member same =>
    absent (same ▸ member)⟩

end CharSet
end RequestRouting

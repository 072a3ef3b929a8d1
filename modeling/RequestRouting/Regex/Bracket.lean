import RequestRouting.Regex.Escape
import RequestRouting.Text.Cut

/-!
# Bracketed sets

The sets written between brackets: characters, ranges, escapes and nested sets, which form a
union, and the operators `&&`, `--` and `~~` between unions, which are read from left to right.
Brackets, unions of several members and operators nest, and their depth is counted.
-/

namespace RequestRouting
namespace Regex

/-- An operator between the sets of a bracket. -/
inductive SetOperator where
  | inter
  | diff
  | symmDiff

/-- The set that an operator makes of two. -/
def SetOperator.apply : SetOperator → CharSet → CharSet → CharSet
  | inter => CharSet.inter
  | diff => CharSet.diff
  | symmDiff => CharSet.symmDiff

/-- A part of a bracket, and how deep brackets, unions and operators are nested in it. -/
structure Member where
  set : CharSet
  depth : Nat := 0

/-- The union of members. One alone is no union. -/
def Member.union : List Member → Member
  | [member] => member
  | members => ⟨.unions (members.map (·.set)), (members.map (·.depth)).foldl max 0 +
      if members.isEmpty then 0 else 1⟩

/-- A bracket that is not closed yet. -/
structure OpenBracket where
  negated : Bool
  /-- What stands before the last operator, and that operator. -/
  left : Option (Member × SetOperator)
  /-- The members of the union after it, latest first. -/
  members : List Member

/-- The sets with names of their own, written `[:name:]` inside a bracket. -/
def namedSet? (name : String) : Option CharSet :=
  let lower := CharSet.range 'a' 'z'
  let upper := CharSet.range 'A' 'Z'
  let digits := CharSet.range '0' '9'
  match name with
  | "alnum" => some (.unions [digits, upper, lower])
  | "alpha" => some (.unions [upper, lower])
  | "ascii" => some (.range '\x00' '\x7f')
  | "blank" => some (.unions [.single '\t', .single ' '])
  | "cntrl" => some (.unions [.range '\x00' '\x1f', .single '\x7f'])
  | "digit" => some digits
  | "graph" => some (.range '!' '~')
  | "lower" => some lower
  | "print" => some (.range ' ' '~')
  | "punct" => some (.unions [.range '!' '/', .range ':' '@', .range '[' '\x60',
      .range '\x7b' '~'])
  | "space" => some (.unions [.range '\t' '\r', .single ' '])
  | "upper" => some upper
  | "word" => some (.unions [digits, upper, .single '_', lower])
  | "xdigit" => some (.unions [digits, .range 'A' 'F', .range 'a' 'f'])
  | _ => none

/-- Reads a named set after its bracket, and whether it is negated. Text that is no such set is left
to be read as a nested bracket. -/
def namedBracket? : List Char → Option (Bool × CharSet × List Char)
  | ':' :: cs => do
    let (negated, cs) := match cs with
      | '^' :: cs => (true, cs)
      | cs => (false, cs)
    match cs.dropWhile (· != ':') with
    | ':' :: ']' :: rest =>
      let set ← namedSet? (String.ofList (Text.upTo ':' cs))
      return (negated, set, rest)
    | _ => none
  | _ => none

namespace OpenBracket

/-- What stands before the current operator, with the union after it. -/
def joined (flags : Flags) (bracket : OpenBracket) : Member :=
  let right := Member.union bracket.members.reverse
  match bracket.left with
  | none => right
  | some (left, operator) =>
    ⟨operator.apply (flags.adjust false left.set) (flags.adjust false right.set),
      max left.depth right.depth + 1⟩

/-- The set of the whole bracket. -/
def close? (flags : Flags) (bracket : OpenBracket) : Option Member :=
  let inner := bracket.joined flags
  (flags.adjust? bracket.negated inner.set).map fun set => ⟨set, inner.depth + 1⟩

/-- The bracket with one more member. -/
def insert (member : Member) (bracket : OpenBracket) : OpenBracket :=
  { bracket with members := member :: bracket.members }

/-- The bracket after an operator. -/
def operate (flags : Flags) (operator : SetOperator) (bracket : OpenBracket) : OpenBracket :=
  { bracket with left := some (bracket.joined flags, operator), members := [] }

end OpenBracket

/-- Reads what follows an opening bracket: a negation, hyphens that stand for themselves, and,
if there are none, a closing bracket that stands for itself. -/
def openBracket (flags : Flags) (cs : List Char) : OpenBracket × List Char :=
  let (negated, cs) := match flags.skip cs with
    | '^' :: cs => (true, flags.skip cs)
    | cs => (false, cs)
  let (hyphens, rest) := flags.span (· == '-') cs.length cs
  match hyphens, rest with
  | [], ']' :: rest => (⟨negated, none, [⟨.single ']', 0⟩]⟩, rest)
  | hyphens, rest => (⟨negated, none, hyphens.map fun c => ⟨.single c, 0⟩⟩, rest)

/-- Reads one character of a bracket or an escape. -/
def readMember? (flags : Flags) : List Char → Option (Escape × List Char)
  | [] => none
  | '\\' :: cs => readEscape? flags cs
  | c :: cs => some (.char c, cs)

/-- Reads a member of a bracket: a range, or else a character or class. -/
def readRange? (flags : Flags) (cs : List Char) : Option (CharSet × List Char) := do
  let (first, rest) ← readMember? flags cs
  let (set, rest) ← match flags.skip rest with
    | '-' :: rest =>
      match flags.skip rest with
      | ']' :: _ | '-' :: _ => alone first ('-' :: rest)
      | rest => do
        let (last, rest) ← readMember? flags rest
        match first, last with
        | .char first, .char last =>
          if first ≤ last then some (CharSet.range first last, rest) else none
        | _, _ => none
    | rest => alone first rest
  if flags.unicode || set.isAscii then some (set, rest) else none
where
  /-- The member that is not part of a range. -/
  alone (member : Escape) (rest : List Char) : Option (CharSet × List Char) :=
    match member with
    | .char c => some (.single c, rest)
    | .set set => some (set, rest)
    | .check _ => none

/-- One step through a bracketed set: either it is closed, or the reading goes on. -/
inductive BracketStep where
  | closed (whole : Member) (rest : List Char)
  | more (bracket : OpenBracket) (outer : List OpenBracket) (rest : List Char)

/-- Reads the next member, operator or bracket inside `bracket`, which stands inside the
brackets `outer`, innermost first. -/
def bracketStep? (flags : Flags) (bracket : OpenBracket) (outer : List OpenBracket)
    (cs : List Char) : Option BracketStep :=
  match flags.skip cs with
  | '[' :: cs =>
    match namedBracket? cs with
    | some (negated, set, rest) =>
      (flags.adjust? negated set).map fun set => .more (bracket.insert ⟨set, 0⟩) outer rest
    | none =>
      let (inner, rest) := openBracket flags cs
      some (.more inner (bracket :: outer) rest)
  | ']' :: cs =>
    (bracket.close? flags).map fun member =>
      match outer with
      | [] => .closed member cs
      | around :: outer => .more (around.insert member) outer cs
  | '&' :: '&' :: cs => some (.more (bracket.operate flags .inter) outer cs)
  | '-' :: '-' :: cs => some (.more (bracket.operate flags .diff) outer cs)
  | '~' :: '~' :: cs => some (.more (bracket.operate flags .symmDiff) outer cs)
  | cs => (readRange? flags cs).map fun (set, rest) => .more (bracket.insert ⟨set, 0⟩) outer rest

/-- Reads up to the end of the outermost bracket. -/
def readBracket? (flags : Flags) (bracket : OpenBracket) (outer : List OpenBracket)
    (cs : List Char) : Option (Member × List Char) :=
  match bracketStep? flags bracket outer cs with
  | none => none
  | some (.closed whole rest) => some (whole, rest)
  | some (.more bracket outer rest) =>
    if rest.length < cs.length then readBracket? flags bracket outer rest else none
termination_by cs.length

/-- Reads a bracketed set after its opening bracket. -/
def bracketed? (flags : Flags) (cs : List Char) : Option (Member × List Char) :=
  let (bracket, rest) := openBracket flags cs
  readBracket? flags bracket [] rest

end Regex
end RequestRouting

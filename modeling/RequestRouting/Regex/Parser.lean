import RequestRouting.Regex.Bracket
import RequestRouting.Text.Alphanumeric

/-!
# Reading regular expressions

The text of a regular expression is read from left to right. The groups that are open form a
stack; each remembers the alternatives read before and the flags to return to. A text that is
no regular expression has no reading; back-references and look-around are not supported, and no
class is known by a property of Unicode.
-/

namespace RequestRouting
namespace Regex

/-- A part of an expression, and how deep groups, repetitions, sequences, choices and brackets
are nested in it. A change of flags is a part that cannot be repeated. -/
structure Part where
  regex : Regex
  depth : Nat := 0
  repeatable : Bool := true

/-- Several parts under one operator. One alone needs no operator. -/
def Part.join (operator : List Regex → Regex) (parts : List Part) : Part where
  regex := operator (parts.map (·.regex))
  depth := (parts.map (·.depth)).foldl max 0 + if parts.length < 2 then 0 else 1

/-- The part of an expression that is being read: alternatives that are complete, and the parts
of the current one, latest first. -/
structure Branches where
  complete : List Part := []
  parts : List Part := []

namespace Branches

/-- The current alternative. -/
def current (branches : Branches) : Part :=
  .join sequence branches.parts.reverse

/-- All alternatives. -/
def all (branches : Branches) : Part :=
  .join choice (branches.current :: branches.complete).reverse

/-- The branches with one more part. -/
def push (part : Part) (branches : Branches) : Branches :=
  { branches with parts := part :: branches.parts }

/-- The branches with a new alternative begun. -/
def alternate (branches : Branches) : Branches :=
  ⟨branches.current :: branches.complete, []⟩

/-- Repeats the last part, if it can be repeated. -/
def repeatLast? (least : Nat) (most : Option Nat) (greedy : Bool) (branches : Branches) :
    Option Branches :=
  match branches.parts with
  | ⟨regex, depth, true⟩ :: parts =>
    some { branches with parts := ⟨regex.repeated least most greedy, depth + 1, true⟩ :: parts }
  | _ => none

end Branches

/-- A group that is not closed yet: its number if it captures, and what was being read and in
force around it. -/
structure OpenGroup where
  number : Option Nat
  around : Branches
  flags : Flags

/-- What has been read of an expression. -/
structure Reading where
  flags : Flags := {}
  branches : Branches := {}
  groups : List OpenGroup := []
  /-- The names of all groups so far, which have to differ. -/
  names : List (List Char) := []
  /-- The number of the next group that captures and has no number of its own. -/
  free : Nat

namespace Reading

/-- Adds a part to the current alternative. -/
def push (part : Part) (reading : Reading) : Reading :=
  { reading with branches := reading.branches.push part }

/-- Opens a group in which `flags` are in force. -/
def openGroup (number : Option Nat) (flags : Flags) (reading : Reading) : Reading :=
  { reading with
    flags
    branches := {}
    groups := ⟨number, reading.branches, reading.flags⟩ :: reading.groups }

/-- Opens a group that captures, under its own number or the next free one. -/
def openCapture (number : Option Nat) (reading : Reading) : Reading :=
  match number with
  | some number => reading.openGroup (some number) reading.flags
  | none => { reading with free := reading.free + 1 }.openGroup (some reading.free) reading.flags

/-- Closes the innermost group. -/
def closeGroup? (reading : Reading) : Option Reading :=
  match reading.groups with
  | [] => none
  | group :: groups =>
    let body := reading.branches.all
    let regex := match group.number with
      | none => body.regex
      | some number => capture number body.regex
    let branches := group.around.push ⟨regex, body.depth + 1, true⟩
    some { reading with flags := group.flags, branches, groups }

/-- The whole expression, once no group is open. Nothing may be nested deeper than 250 times. -/
def finish? (reading : Reading) : Option Regex :=
  let whole := reading.branches.all
  if reading.groups.isEmpty ∧ whole.depth ≤ 250 then some whole.regex else none

end Reading

/-- Whether a character can stand in the name of a group, at its beginning or later. -/
def isGroupNameChar (atStart : Bool) (c : Char) : Bool :=
  if atStart then c == '_' || Text.isAlphabetic c
  else c == '_' || c == '.' || c == '[' || c == ']' || Text.isAlphanumeric c

/-- Reads the name of a group and the angle bracket after it. -/
def groupName? (cs : List Char) : Option (List Char × List Char) := do
  let (name, rest) ← Text.cut? ['>'] cs
  match name with
  | [] => none
  | c :: later =>
    if isGroupNameChar true c && later.all (isGroupNameChar false) then some (name, rest) else none

/-- Reads flags up to the colon or parenthesis that ends them, which is given back together with
what follows. No flag is named twice, and at most one hyphen stands among them, but not last;
the flags after it are cleared. -/
def readFlags? (flags : Flags) (named : List Char) :
    List Char → Option (Flags × List Char × Char × List Char)
  | [] => none
  | c :: cs =>
    if c = ':' ∨ c = ')' then
      if named.head? = some '-' then none else some (flags, named, c, cs)
    else if named.contains c then none
    else if c = '-' then readFlags? flags (c :: named) cs
    else do readFlags? (← flags.set? c (!named.contains '-')) (c :: named) cs

/-- Reads what follows an opening parenthesis. Names in `numbers` give a group its number. -/
def readGroup? (numbers : List Char → Option Nat) (reading : Reading) (cs : List Char) :
    Option (Reading × List Char) :=
  match reading.flags.skip cs with
  | '?' :: '=' :: _ | '?' :: '!' :: _ | '?' :: '<' :: '=' :: _ | '?' :: '<' :: '!' :: _ => none
  | '?' :: 'P' :: '<' :: cs => namedGroup cs
  | '?' :: '<' :: cs => namedGroup cs
  | '?' :: cs => do
    let (flags, named, closing, rest) ← readFlags? reading.flags [] cs
    if closing = ':' then return (reading.openGroup none flags, rest)
    if named.isEmpty then none
    return ({ reading with flags }.push ⟨empty, 0, false⟩, rest)
  | cs => some (reading.openCapture none, cs)
where
  /-- Opens a group whose name comes next. -/
  namedGroup (cs : List Char) : Option (Reading × List Char) := do
    let (name, rest) ← groupName? cs
    if reading.names.contains name then none
    return ({ reading with names := name :: reading.names }.openCapture (numbers name), rest)

/-- Reads a decimal number below 2^32, with blanks around it. -/
def readCount? (flags : Flags) (cs : List Char) : Option (Nat × List Char) :=
  let (digits, rest) := flags.span Char.isDigit cs.length (cs.dropWhile Text.isBlank)
  let value := Text.decimalValue digits
  if digits.isEmpty ∨ Nat.pow 2 32 ≤ value then none
  else some (value, flags.skip (rest.dropWhile Text.isBlank))

/-- Reads the bounds of a repetition after the opening brace. -/
def readBounds? (flags : Flags) (cs : List Char) : Option (Nat × Option Nat × List Char) := do
  let (least, rest) ← readCount? flags (flags.skip cs)
  match rest with
  | '}' :: rest => return (least, some least, flags.skip rest)
  | ',' :: rest =>
    match flags.skip rest with
    | '}' :: rest => return (least, none, flags.skip rest)
    | rest =>
      let (most, rest) ← readCount? flags rest
      match rest with
      | '}' :: rest => if least ≤ most then some (least, some most, flags.skip rest) else none
      | _ => none
  | _ => none

/-- Repeats the last part, fewer times first if a question mark follows. -/
def readRepetition? (least : Nat) (most : Option Nat) (reading : Reading) (rest : List Char) :
    Option (Reading × List Char) := do
  let (lazy, rest) := match rest with
    | '?' :: rest => (true, rest)
    | rest => (false, rest)
  let branches ← reading.branches.repeatLast? least most (lazy == reading.flags.swapGreed)
  return ({ reading with branches }, rest)

/-- What a dot stands for: every character, or all but those that end a line. -/
def dot (flags : Flags) : CharSet :=
  if flags.dotMatchesAll then .all
  else if flags.carriageReturns then .complement (.unions [.single '\n', .single '\r'])
  else .except '\n'

/-- Reads one part of an expression. A dot can only be read by Unicode, since it would be any byte
without. -/
def readPart? (numbers : List Char → Option Nat) (reading : Reading) (first : Char)
    (rest : List Char) : Option (Reading × List Char) :=
  let flags := reading.flags
  match first with
  | '(' => readGroup? numbers reading rest
  | ')' => reading.closeGroup?.map (·, rest)
  | '|' => some ({ reading with branches := reading.branches.alternate }, rest)
  | '[' => (bracketed? flags rest).map fun (whole, rest) =>
      (reading.push ⟨char whole.set, whole.depth, true⟩, rest)
  | '?' => readRepetition? 0 (some 1) reading rest
  | '*' => readRepetition? 0 none reading rest
  | '+' => readRepetition? 1 none reading rest
  | '{' => do
    let (least, most, rest) ← readBounds? flags rest
    readRepetition? least most reading rest
  | '\\' => (readEscape? flags rest).map fun (escape, rest) =>
      match escape with
      | .char c => (add (one c), rest)
      | .set set => (add (char set), rest)
      | .check assertion => (add (check assertion), rest)
  | '.' => if flags.unicode then some (add (char (dot flags)), rest) else none
  | '^' =>
    let start := if flags.carriageReturns then .anyLineStart else .lineStart
    some (add (check (if flags.multiLine then start else .textStart)), rest)
  | '$' =>
    let ending := if flags.carriageReturns then .anyLineEnd else .lineEnd
    some (add (check (if flags.multiLine then ending else .textEnd)), rest)
  | c => some (add (one c), rest)
where
  /-- Adds a part in which nothing is nested. -/
  add (regex : Regex) : Reading := reading.push ⟨regex, 0, true⟩
  /-- One character, or another form of it where case is ignored. -/
  one (c : Char) : Regex := char (reading.flags.adjust false (.single c))

/-- Reads the rest of an expression. -/
def readFrom? (numbers : List Char → Option Nat) (reading : Reading) (cs : List Char) :
    Option Regex :=
  match reading.flags.skip cs with
  | [] => reading.finish?
  | c :: rest =>
    match readPart? numbers reading c rest with
    | none => none
    | some (reading, rest) =>
      if rest.length < cs.length then readFrom? numbers reading rest else none
termination_by cs.length

/-- The regular expression written by a text. A group that captures has the number of its name
in `numbers`, and all others are numbered from `free` on. -/
def parse? (numbers : List Char → Option Nat) (free : Nat) (text : List Char) : Option Regex :=
  readFrom? numbers { free } text

end Regex
end RequestRouting

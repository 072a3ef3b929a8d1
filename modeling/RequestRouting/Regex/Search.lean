import RequestRouting.Regex.Program

/-!
# Searching

A match starts as far left as possible. Among those that start there it is the one to which the
best way through the program leads, where a way is better than all that are tried after it.
`Regex.sweep` follows all ways at once, character by character. Of the ways that come to an
instruction at the same place only the best goes on, so that a loop is left as soon as it comes
back to its beginning without having taken a character.
-/

namespace RequestRouting
namespace Regex

/-- The beginning or end of a group, after some number of characters of the text. -/
structure Mark where
  group : Nat
  isEnd : Bool
  position : Nat

/-- A place in a text, after some number of its characters. -/
structure Place where
  position : Nat
  previous : Option Char
  rest : List Char

/-- A way through a program: the instruction that comes next, and the marks on the way to it,
latest first. -/
structure Thread where
  next : Nat
  marks : List Mark

/-- What one instruction makes of a way. -/
inductive Step where
  /-- The ways that go on at the same place, best first. -/
  | goOn (ways : List Thread)
  /-- The way behind the next character. -/
  | taken (way : Thread)
  | accepted

/-- What an instruction makes of a way that comes to it. -/
def Thread.step (thread : Thread) (place : Place) : Instruction → Step
  | .take set next =>
    if place.rest.head?.any set.contains then .taken ⟨next, thread.marks⟩ else .goOn []
  | .check assertion next =>
    .goOn (if assertion.holds place.previous place.rest then [⟨next, thread.marks⟩] else [])
  | .jump next => .goOn [⟨next, thread.marks⟩]
  | .fork first second => .goOn [⟨first, thread.marks⟩, ⟨second, thread.marks⟩]
  | .opening group next => .goOn [⟨next, ⟨group, false, place.position⟩ :: thread.marks⟩]
  | .closing group next => .goOn [⟨next, ⟨group, true, place.position⟩ :: thread.marks⟩]
  | .accept => .accepted

/-- Where ways lead at one place of a text: behind the next character, or to the end of the
program. -/
structure Outcome where
  threads : List Thread
  accepted : Option (List Mark)

/-- Follows the ways in `threads`, best first, as far as they take no character. Those that have
taken the next character are added to `taken`, latest first. A way that accepts ends the search,
since all that come after it are worse. Each instruction is followed once and leads to at most
two others, which bounds the number of steps. -/
def follow (program : Array Instruction) (place : Place) :
    (fuel : Nat) → (reached : Array Bool) → (threads taken : List Thread) → Outcome
  | 0, _, _, taken => ⟨taken.reverse, none⟩
  | _, _, [], taken => ⟨taken.reverse, none⟩
  | fuel + 1, reached, thread :: threads, taken =>
    if reached.getD thread.next true then follow program place fuel reached threads taken
    else
      let reached := reached.setIfInBounds thread.next true
      match thread.step place (program.getD thread.next .accept) with
      | .goOn ways => follow program place fuel reached (ways ++ threads) taken
      | .taken way => follow program place fuel reached threads (way :: taken)
      | .accepted => ⟨taken.reverse, some thread.marks⟩

/-- Follows ways from one place of a text. -/
def advance (program : Array Instruction) (place : Place) (threads : List Thread) : Outcome :=
  follow program place (threads.length + 2 * program.size + 1)
    (Array.replicate program.size false) threads []

/-- The marks of the best match at a place or later, where `threads` are the ways that lead to
the place, and `best` are the marks of the best match before it. As long as there is none, a new
way begins at each place, which is worse than all that began earlier. -/
def sweep (program : Array Instruction) (best : Option (List Mark)) (threads : List Thread)
    (position : Nat) (previous : Option Char) (rest : List Char) : Option (List Mark) :=
  let threads := if best.isSome then threads else threads ++ [⟨0, []⟩]
  let outcome := advance program ⟨position, previous, rest⟩ threads
  let best := outcome.accepted.or best
  match rest with
  | [] => best
  | c :: rest =>
    if best.isSome && outcome.threads.isEmpty then best
    else sweep program best outcome.threads (position + 1) (some c) rest

/-- A match in a text, with the marks of its groups, latest first. -/
structure Match where
  text : List Char
  marks : List Mark

/-- The text of a group, that of the last time it took part in the match. -/
def Match.captured? (found : Match) (group : Nat) : Option (List Char) := do
  let ending ← found.marks.find? fun mark => mark.group == group && mark.isEnd
  let beginning ← found.marks.find? fun mark => mark.group == group && !mark.isEnd
  return (found.text.drop beginning.position).take (ending.position - beginning.position)

/-- The first match in a text. -/
def search? (r : Regex) (text : List Char) : Option Match :=
  (sweep r.program none [] 0 none text).map (⟨text, ·⟩)

end Regex
end RequestRouting

import RequestRouting.Regex.Basic

/-!
# Programs of regular expressions

A regular expression as numbered instructions, of which those that take a character are apart
from those that only say where to go on. The order of the two ways of a fork is that in which
they are tried.
-/

namespace RequestRouting
namespace Regex

/-- An instruction, with the numbers of those that can come after it. -/
inductive Instruction where
  /-- Takes one character of the set. -/
  | take (set : CharSet) (next : Nat)
  | check (assertion : Assertion) (next : Nat)
  | jump (next : Nat)
  | fork (first second : Nat)
  /-- The beginning of a group. -/
  | opening (group : Nat) (next : Nat)
  /-- The end of a group. -/
  | closing (group : Nat) (next : Nat)
  | accept

/-- A fork between one more repetition and the way out. -/
def repeatOrLeave (greedy : Bool) (again leave : Nat) : Instruction :=
  if greedy then .fork again leave else .fork leave again

/-- The number of instructions of an expression. -/
def codeSize : Regex → Nat
  | empty => 1
  | char _ => 1
  | check _ => 1
  | seq first second => first.codeSize + second.codeSize
  | alt first second => first.codeSize + second.codeSize + 1
  | times body 0 none _ => body.codeSize + if body.isNullable then 2 else 1
  | times body (least + 1) none _ => (least + 1) * body.codeSize + 1
  | times body least (some most) _ =>
    least * body.codeSize + (most - least) * (body.codeSize + 1) + 1
  | capture _ body => body.codeSize + 2

/-- The instructions for `count` repetitions, of `size` instructions each, and what follows. -/
def repeatCode (size : Nat) (once : (start next : Nat) → List Instruction)
    (after : (start : Nat) → List Instruction) : (count start : Nat) → List Instruction
  | 0, start => after start
  | count + 1, start =>
    once start (start + size) ++ repeatCode size once after count (start + size)

/-- The instructions for up to `count` repetitions, from each of which a way leads to `leave`. -/
def upToCode (size : Nat) (greedy : Bool) (once : (start next : Nat) → List Instruction)
    (leave : Nat) : (count start : Nat) → List Instruction
  | 0, _ => [.jump leave]
  | count + 1, start =>
    repeatOrLeave greedy (start + 1) leave :: once (start + 1) (start + 1 + size) ++
      upToCode size greedy once leave count (start + 1 + size)

/-- The instructions for one or more repetitions. -/
def plusCode (size : Nat) (greedy : Bool) (once : (start next : Nat) → List Instruction)
    (leave start : Nat) : List Instruction :=
  once start (start + size) ++ [repeatOrLeave greedy start leave]

/-- The instructions of an expression, numbered from `start`, after which it goes on at `next`.
What can match the empty text is tried once before the way around it, so that the way around it
counts less than the ways through it. -/
def code : Regex → (start next : Nat) → List Instruction
  | empty, _, next => [.jump next]
  | char set, _, next => [.take set next]
  | .check assertion, _, next => [.check assertion next]
  | seq first second, start, next =>
    let middle := start + first.codeSize
    first.code start middle ++ second.code middle next
  | alt first second, start, next =>
    let middle := start + 1 + first.codeSize
    .fork (start + 1) middle :: first.code (start + 1) next ++ second.code middle next
  | times body 0 none greedy, start, next =>
    repeatOrLeave greedy (start + 1) next ::
      if body.isNullable then plusCode body.codeSize greedy body.code next (start + 1)
      else body.code (start + 1) start
  | times body (least + 1) none greedy, start, next =>
    repeatCode body.codeSize body.code (plusCode body.codeSize greedy body.code next) least start
  | times body least (some most) greedy, start, next =>
    repeatCode body.codeSize body.code
      (upToCode body.codeSize greedy body.code next (most - least)) least start
  | capture group body, start, next =>
    let last := start + 1 + body.codeSize
    .opening group (start + 1) :: body.code (start + 1) last ++ [.closing group next]

/-- The instructions of a whole expression, which begins with the first of them. -/
def program (r : Regex) : Array Instruction :=
  (r.code 0 r.codeSize ++ [Instruction.accept]).toArray

end Regex
end RequestRouting

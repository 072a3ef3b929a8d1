import RequestRouting.Regex.CharSet

/-!
# Regular expressions

The terms that path patterns are compiled to, and the forms in which sequences, choices and
repetitions are put together. The forms decide between several ways to match a text: what two
alternatives begin with is shared by them, so that its first way is tried with both.
-/

namespace RequestRouting

/-- A condition on a place of a text that takes no characters. Those on words are about the word
characters of Unicode or only of ASCII. -/
inductive Assertion where
  | textStart
  | textEnd
  | lineStart
  | lineEnd
  /-- The start of a line that a line feed, a carriage return or both of them end. -/
  | anyLineStart
  /-- The end of such a line. -/
  | anyLineEnd
  | wordBoundary (unicode : Bool)
  | noWordBoundary (unicode : Bool)
  | wordStart (unicode : Bool)
  | wordEnd (unicode : Bool)
  | wordStartHalf (unicode : Bool)
  | wordEndHalf (unicode : Bool)
  deriving DecidableEq

namespace Assertion

/-- Whether the condition holds between a character, if there is one, and what follows it. -/
def holds (assertion : Assertion) (previous : Option Char) (rest : List Char) : Bool :=
  let before := fun unicode => previous.any (CharSet.word unicode).contains
  let after := fun unicode => rest.head?.any (CharSet.word unicode).contains
  match assertion with
  | textStart => previous.isNone
  | textEnd => rest.isEmpty
  | lineStart => previous.all (· == '\n')
  | lineEnd => rest.head?.all (· == '\n')
  | anyLineStart =>
    previous.all fun c => c == '\n' || (c == '\r' && rest.head? != some '\n')
  | anyLineEnd =>
    rest.head?.all fun c => c == '\r' || (c == '\n' && previous != some '\r')
  | wordBoundary unicode => before unicode != after unicode
  | noWordBoundary unicode => before unicode == after unicode
  | wordStart unicode => !before unicode && after unicode
  | wordEnd unicode => before unicode && !after unicode
  | wordStartHalf unicode => !before unicode
  | wordEndHalf unicode => !after unicode

end Assertion

/-- A regular expression. -/
inductive Regex where
  | empty
  | char (set : CharSet)
  | check (assertion : Assertion)
  | seq (first second : Regex)
  | alt (first second : Regex)
  /-- From `least` to `most` repetitions, as many as possible if `greedy`, else as few. -/
  | times (body : Regex) (least : Nat) (most : Option Nat) (greedy : Bool)
  | capture (group : Nat) (body : Regex)
  deriving DecidableEq

namespace Regex

/-- Whether the expression can match the empty text where its assertions hold. -/
def isNullable : Regex → Bool
  | empty => true
  | char _ => false
  | check _ => true
  | seq first second => first.isNullable && second.isNullable
  | alt first second => first.isNullable || second.isNullable
  | times body least _ _ => least == 0 || body.isNullable
  | capture _ body => body.isNullable

/-- Whether the expression can match no other text than the empty one. -/
def takesNothing : Regex → Bool
  | empty => true
  | char _ => false
  | check _ => true
  | seq first second => first.takesNothing && second.takesNothing
  | alt first second => first.takesNothing && second.takesNothing
  | times body _ most _ => most == some 0 || body.takesNothing
  | capture _ body => body.takesNothing

/-- The parts of a sequence. -/
def items : Regex → List Regex
  | empty => []
  | seq first second => first.items ++ second.items
  | r => [r]

/-- Parts one after the other. -/
def ofItems : List Regex → Regex
  | [] => empty
  | [r] => r
  | r :: rs => seq r (ofItems rs)

/-- Expressions one after the other. Sequences among them are taken apart, so that a sequence has
no parts that are sequences or empty. -/
def sequence (rs : List Regex) : Regex :=
  ofItems (rs.flatMap items)

/-- The expressions between which a choice is made. -/
def alternatives : Regex → List Regex
  | alt first second => first.alternatives ++ second.alternatives
  | r => [r]

/-- The choice between alternatives, of which the first that leads to a match counts. -/
def ofAlternatives : List Regex → Regex
  | [] => empty
  | [r] => r
  | r :: rs => alt r (ofAlternatives rs)

/-- The set of an expression that stands for one character. -/
def charSet? : Regex → Option CharSet
  | char set => some set
  | _ => none

/-- The items with which two sequences begin. -/
def commonPrefix : List Regex → List Regex → List Regex
  | r :: rs, r' :: rs' => if r = r' then r :: commonPrefix rs rs' else []
  | _, _ => []

/-- The items with which all alternatives begin, if each has at least two. -/
def sharedPrefix (sequences : List (List Regex)) : List Regex :=
  match sequences with
  | first :: others =>
    if sequences.all (2 ≤ ·.length) then others.foldl commonPrefix first else []
  | [] => []

/-- The number of operators and operands in an expression. -/
def weight : Regex → Nat
  | seq first second | alt first second => first.weight + second.weight + 1
  | times body _ _ _ | capture _ body => body.weight + 1
  | _ => 1

/-- The choice between expressions, where common beginnings are shared up to `depth` times. -/
def choiceWithin : (depth : Nat) → List Regex → Regex
  | 0, rs => ofAlternatives rs
  | depth + 1, rs =>
    let rs := rs.flatMap alternatives
    match rs.mapM charSet? with
    | some (set :: sets) => char (sets.foldl CharSet.union set)
    | _ =>
      let sequences := rs.map items
      match sharedPrefix sequences with
      | [] => ofAlternatives rs
      | shared =>
        let remainders := sequences.map fun items => ofItems (items.drop shared.length)
        sequence (shared ++ [choiceWithin depth remainders])

/-- The choice between expressions, of which the first that leads to a match counts. Choices
among them are taken apart, a choice between characters is a set of characters, and what all
alternatives begin with stands once in front of them. -/
def choice (rs : List Regex) : Regex :=
  match rs with
  | [r] => r
  | rs => choiceWithin ((rs.map weight).foldr (· + ·) 0 + 1) rs

/-- The repetition of an expression. What takes no characters is repeated at most once. -/
def repeated (least : Nat) (most : Option Nat) (greedy : Bool) (r : Regex) : Regex :=
  let (least, most) :=
    if r.takesNothing then (min least 1, some (most.elim 1 (min 1))) else (least, most)
  match least, most with
  | 0, some 0 => empty
  | 1, some 1 => r
  | least, most => times r least most greedy

/-- The expression for a text that stands for itself. -/
def literal (cs : List Char) : Regex :=
  ofItems (cs.map fun c => char (.single c))

/-- As many repetitions as possible. -/
def star (r : Regex) : Regex := times r 0 none true

/-- As many repetitions as possible, but at least one. -/
def plus (r : Regex) : Regex := times r 1 none true

/-- The expression, or nothing. -/
def optional (r : Regex) : Regex := times r 0 (some 1) true

end Regex
end RequestRouting

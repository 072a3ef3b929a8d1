/-!
# Cutting texts

A text is cut in two at the first place where a mark stands, and the mark itself is dropped.
-/

namespace RequestRouting.Text

/-- What stands before and after the first occurrence of a mark that is not empty. -/
def cut? (mark : List Char) : List Char → Option (List Char × List Char)
  | [] => none
  | c :: cs =>
    if mark.isPrefixOf (c :: cs) then some ([], (c :: cs).drop mark.length)
    else (cut? mark cs).map fun (before, after) => (c :: before, after)

/-- The part of a text before the first `mark`, or all of it. -/
def upTo (mark : Char) (cs : List Char) : List Char :=
  cs.takeWhile (· != mark)

/-- What a text holds between an opening and a closing brace at its ends. -/
def braced? : List Char → Option (List Char)
  | '{' :: rest => if rest.getLast? = some '}' then some rest.dropLast else none
  | _ => none

/-- Equality of texts up to the case of ASCII letters. -/
def sameIgnoringCase (s t : String) : Bool :=
  s.toList.map Char.toLower == t.toList.map Char.toLower

end RequestRouting.Text

import RequestRouting.Text.Alphanumeric
import RequestRouting.Text.Cut

/-!
# Patterns that a tree can index

A pattern tree decides whole segments only. A pattern with `?`, with a constrained or embedded
variable such as `{id:\d+}` or `file.{ext}`, or with `*` inside a segment, is left out of it.
-/

namespace RequestRouting

/-- The characters of a plain variable name. -/
def isNameChar (c : Char) : Bool :=
  Text.isAlphanumeric c || c == '_' || c == '-' || c == '.'

/-- Whether the text between braces is a plain name, which may follow one `*`. -/
def isPlainName : List Char → Bool
  | '*' :: name => !name.isEmpty && name.all isNameChar
  | name => !name.isEmpty && name.all isNameChar

/-- Whether a tree can decide a token of a pattern by the style of its segment. -/
def isIndexableToken (token : List Char) : Bool :=
  if token = ['*'] ∨ token = ['*', '*'] then true
  else match Text.braced? token with
    | some name => isPlainName name
    | none => !(token.dropWhile (· != '{')).contains '}' && !token.contains '*'

/-- Whether a pattern tree can index a pattern. -/
def isIndexable (pattern : String) : Bool :=
  !pattern.toList.contains '?' && (pattern.toList.splitOn '/').all isIndexableToken

end RequestRouting

import RequestRouting.Error
import RequestRouting.Regex.Basic

/-!
# Dialects of regular expressions

The constraints of patterns are read by a library of regular expressions. Which texts it accepts,
which classes it knows by name and how much memory an expression may take is its own affair, and
nothing else depends on it: a pattern is compiled, and routes are registered, in any dialect.
-/

namespace RequestRouting

/-- How texts are read as regular expressions. -/
class Regex.Dialect where
  /-- The regular expression written by a text, or why it cannot be used. A group that captures has
  the number of its name in `numbers`, and all others are numbered from `free` on. -/
  read (numbers : List Char → Option Nat) (free : Nat) (text : List Char) :
    Except PatternFault Regex

end RequestRouting

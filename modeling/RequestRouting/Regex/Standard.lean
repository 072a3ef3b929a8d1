import RequestRouting.Regex.Dialect
import RequestRouting.Regex.Parser
import RequestRouting.Regex.Size

/-!
# The standard dialect

The dialect of the command line. It has no classes that are named by properties of Unicode, such as
`\p{Greek}`, and refuses what takes more than 10 MiB.
-/

namespace RequestRouting

instance Regex.standard : Regex.Dialect where
  read numbers free text :=
    match parse? numbers free text with
    | none => .error .unreadable
    | some expression => if expression.isTooLarge then .error .tooLarge else .ok expression

end RequestRouting

import RequestRouting.Text.Blank
import RequestRouting.Text.Cut

/-!
# Media types

A media type such as `text/html; charset=utf-8` has a type and a subtype, either of which can be
`*`. Parameters after a semicolon do not count.
-/

namespace RequestRouting.MediaType

/-- The type and the subtype, which is `*` if there is no slash. -/
def parts (mediaType : String) : String × String :=
  let essence := Text.trim (Text.upTo ';' mediaType.toList)
  let (kind, subtype) := (Text.cut? ['/'] essence).getD (essence, ['*'])
  (String.ofList kind, String.ofList subtype)

/-- Whether a declared media type, in which `*` stands for anything, covers an actual one. -/
def includes (declared actual : String) : Bool :=
  let (kind, subtype) := parts declared
  let (actualKind, actualSubtype) := parts actual
  (kind == "*" || Text.sameIgnoringCase kind actualKind)
    && (subtype == "*" || Text.sameIgnoringCase subtype actualSubtype)

/-- Whether one of two media types covers the other. -/
def compatible (a b : String) : Bool :=
  includes a b || includes b a

end RequestRouting.MediaType

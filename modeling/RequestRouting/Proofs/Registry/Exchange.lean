import RequestRouting.Proofs.Pattern.Unknown
import RequestRouting.Proofs.Registry.Coverage
import RequestRouting.Proofs.Tree.Exchange

/-!
# What the text of a request may decide

Text of a request that no registered pattern knows decides nothing: the tree chooses the same route
for two paths that differ in such text only (`lookup?_exchange`). The exception is text that is the
key of a style, since a segment of a request is looked up among these keys as well.
-/

namespace RequestRouting

open Pattern

namespace Node

end Node

namespace Registry

variable {registry : Registry}

/-- Whether a text is a line that is not empty and no literal segment of a registered pattern that
the tree indexes. -/
structure Unknown (registry : Registry) (text : List Char) : Prop where
  full : text ≠ []
  line : '\n' ∉ text
  foreign : ∀ registration ∈ registry.registrations, registration.inTree = true →
    ∀ token ∈ tokensOf registration.pattern.text.toList, Segment.ofToken token ≠ .literal text

end Registry
end RequestRouting

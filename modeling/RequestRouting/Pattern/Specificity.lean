import RequestRouting.Pattern.Basic

/-!
# Specificity

Of several patterns that match a path the most specific one comes first. A pattern that is the
path itself precedes all others and the pattern `/**` follows them; a pattern that ends in `/**`
follows those without multi-segment wildcards. Else the fewer variables and wildcards, and then
the longer pattern, come first.
-/

namespace RequestRouting

/-- The counts by which patterns are ranked. A variable counts as one character. -/
structure Specificity where
  parameters : Nat
  singleWildcards : Nat
  doubleWildcards : Nat
  length : Nat

namespace Specificity

/-- The counts of nothing. -/
def zero : Specificity := ⟨0, 0, 0, 0⟩

/-- The counts of two parts together. -/
def add (a b : Specificity) : Specificity :=
  ⟨a.parameters + b.parameters, a.singleWildcards + b.singleWildcards,
    a.doubleWildcards + b.doubleWildcards, a.length + b.length⟩

/-- The counts of a token. -/
def ofToken : PatternToken → Specificity
  | .literal text => ⟨0, 0, 0, text.length⟩
  | .parameter _ _ => ⟨1, 0, 0, 1⟩
  | .star => ⟨0, 1, 0, 1⟩
  | .anyChar => ⟨0, 0, 0, 1⟩

/-- The counts of a segment and the slash before it. -/
def ofSegment : PatternSegment → Specificity
  | .any => ⟨0, 0, 1, 3⟩
  | .captureRest _ => ⟨1, 0, 1, 2⟩
  | .tokens tokens => (tokens.map ofToken).foldr add ⟨0, 0, 0, 1⟩

/-- The counts of a pattern. -/
def ofSegments (segments : List PatternSegment) : Specificity :=
  (segments.map ofSegment).foldr add zero

/-- The number of all variables and wildcards. -/
def total (s : Specificity) : Nat :=
  s.parameters + s.singleWildcards + s.doubleWildcards

/-- The order by counts alone. -/
def compare (a b : Specificity) : Ordering :=
  (Ord.compare a.total b.total).then <|
    (Ord.compare b.length a.length).then <|
      (Ord.compare a.singleWildcards b.singleWildcards).then <|
        Ord.compare a.parameters b.parameters

end Specificity

namespace PathPattern

/-- Whether this is the pattern of all paths. -/
def isCatchAll (pattern : PathPattern) : Bool :=
  pattern.text == "/**"

/-- Whether the pattern ends with any number of segments. -/
def endsOpen (pattern : PathPattern) : Bool :=
  "/**".toList.isSuffixOf pattern.text.toList

/-- The counts of a pattern. -/
def specificity (pattern : PathPattern) : Specificity :=
  Specificity.ofSegments pattern.segments

/-- The order of two patterns that match `path`, most specific first. -/
def compareSpecificity (a b : PathPattern) (path : String) : Ordering :=
  match a.isCatchAll, b.isCatchAll with
  | true, true => .eq
  | true, false => .gt
  | false, true => .lt
  | false, false =>
    match a.text == path, b.text == path with
    | true, true => .eq
    | true, false => .lt
    | false, true => .gt
    | false, false =>
      if a.endsOpen && b.specificity.doubleWildcards == 0 then .gt
      else if b.endsOpen && a.specificity.doubleWildcards == 0 then .lt
      else a.specificity.compare b.specificity

end PathPattern
end RequestRouting

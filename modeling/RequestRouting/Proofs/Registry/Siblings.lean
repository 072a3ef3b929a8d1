import RequestRouting.Proofs.Pattern.SharedChain
import RequestRouting.Proofs.Registry.Consistency
import RequestRouting.Proofs.Route.Selection
import RequestRouting.Regex.Standard

/-!
# Routes of one node

The patterns of the routes that end at one node of the tree have the same chain and match the same
paths. Evaluating routes of a node for a request, the search therefore drops all of them for their
pattern or none, and only their conditions tell them apart (`siblings_match_alike`).
-/

namespace RequestRouting

open PathPattern

/-- Routes whose patterns all match are candidates by their conditions. -/
theorem map_entry_candidates_of_matched {routes : List RouteEntry} {path : String}
    (request : Request) (matched : ∀ route ∈ routes, route.pattern.isMatch path = true) :
    (candidates request path routes).map (·.entry) =
      routes.filter fun route => (route.conditions.matching? request).isSome := by
  rw [map_entry_candidates]
  refine List.filter_congr fun route member => ?_
  have found := matched route member
  rw [isMatch_eq_isSome] at found
  obtain ⟨params, found⟩ := Option.isSome_iff_exists.1 found
  unfold Candidate.of?
  rw [found]
  cases route.conditions.matching? request <;> rfl

namespace Registry

/-- The routes that end at one node match alike. -/
theorem Consistent.isMatch_of_node {registry : Registry} (consistent : registry.Consistent)
    {keys : List String} {route other : RouteEntry}
    (here : route ∈ registry.tree.entriesAt keys) (there : other ∈ registry.tree.entriesAt keys)
    (path : String) : route.pattern.isMatch path = other.pattern.isMatch path := by
  have held : ∀ {route}, route ∈ registry.tree.entriesAt keys →
      PatternTree.keys route.chain = keys ∧ isIndexable route.pattern.text = true ∧
        ∃ text, route.pattern.MadeFrom registry.config.trailingSlashMatch text := by
    intro route member
    obtain ⟨held, sameKeys⟩ := consistent.indexed.holds.mem_entriesAt_root.1 member
    obtain ⟨present, indexed⟩ := List.mem_filter.1 held
    obtain ⟨registration, registered, method, -, rfl⟩ := consistent.mem_entries_iff.1 present
    exact ⟨sameKeys, indexed, consistent.compiled registration registered⟩
  obtain ⟨keysHere, indexable, text, made⟩ := held here
  obtain ⟨keysThere, indexable', text', made'⟩ := held there
  -- canonical segments are told by their keys, and the first one is the method
  have chain := eq_of_keys (fun _ => isCanonical_of_mem_ofPattern)
    (fun _ => isCanonical_of_mem_ofPattern) (keysHere.trans keysThere.symm)
  rw [segments_ofPattern, segments_ofPattern] at chain
  exact isMatch_congr made made' indexable indexable' (List.cons.inj chain).2 path

/-- Patterns that a tree can index and that have the same chain match the same paths, if both or
none of them allow for one more slash. After every history, of the routes at one node of the tree
all are candidates for a request whose conditions it satisfies, or none is as no pattern matches. -/
theorem siblings_match_alike [Regex.Dialect] {slashAllowed : Bool} {text other method : String}
    {p q : PathPattern}
    (compiled : compile slashAllowed text = .ok p) (compiled' : compile slashAllowed other = .ok q)
    (indexable : isIndexable p.text = true) (indexable' : isIndexable q.text = true)
    (sameChain : Chain.ofPattern method p.text = Chain.ofPattern method q.text) :
    (∀ path, p.isMatch path = q.isMatch path) ∧
      ∀ config history keys routes, routes ⊆ (after config history).tree.entriesAt keys →
        ∀ request path,
          (∀ route ∈ routes, route.pattern.isMatch path = true) ∧
              (candidates request path routes).map (·.entry) =
                routes.filter (fun route => (route.conditions.matching? request).isSome) ∨
            (∀ route ∈ routes, route.pattern.isMatch path = false) ∧
              candidates request path routes = [] := by
  constructor
  · intro path
    have segments := congrArg Chain.segments sameChain
    rw [Chain.ofPattern, Chain.ofPattern, Chain.create, Chain.create, segments_split,
      segments_split] at segments
    exact isMatch_congr (of_compile compiled) (of_compile compiled') indexable indexable'
      (List.append_cancel_left segments) path
  · intro config history keys routes ofNode request path
    have consistent := consistent_after config history
    by_cases all : ∀ route ∈ routes, route.pattern.isMatch path = true
    · exact .inl ⟨all, map_entry_candidates_of_matched request all⟩
    · push Not at all
      obtain ⟨missed, missedMember, noMatch⟩ := all
      have none : ∀ route ∈ routes, route.pattern.isMatch path = false := by
        intro route member
        rw [consistent.isMatch_of_node (ofNode member) (ofNode missedMember)]
        simpa using noMatch
      refine .inr ⟨none, candidates_eq_nil_iff.2 ?_⟩
      rintro route member ⟨matched, -⟩
      rw [← isMatch_eq_isSome, none route member] at matched
      exact absurd matched Bool.false_ne_true

/-- Neither the names of variables nor the way a multi-segment wildcard is written matter. -/
theorem siblings_match_alike_under_other_names :
    ∃ p ∈ (compile true "/users/{id}/**").toOption,
      ∃ q ∈ (compile true "/users/{name}/{*rest}").toOption,
        isIndexable p.text = true ∧ isIndexable q.text = true ∧
          Chain.ofPattern "GET" p.text = Chain.ofPattern "GET" q.text ∧
          (∀ path, p.isMatch path = q.isMatch path) ∧ p.isMatch "/users/5/photos/1" = true := by
  have found : ∃ p ∈ (compile true "/users/{id}/**").toOption,
      ∃ q ∈ (compile true "/users/{name}/{*rest}").toOption,
        isIndexable p.text = true ∧ isIndexable q.text = true ∧
          Chain.ofPattern "GET" p.text = Chain.ofPattern "GET" q.text ∧
          p.isMatch "/users/5/photos/1" = true := by
    decide +kernel
  obtain ⟨p, memberP, q, memberQ, indexable, indexable', sameChain, matched⟩ := found
  have alike := siblings_match_alike (mem_toOption_compile.1 memberP)
    (mem_toOption_compile.1 memberQ) indexable indexable' sameChain
  exact ⟨p, memberP, q, memberQ, indexable, indexable', sameChain, alike.1, matched⟩

end Registry
end RequestRouting

import RequestRouting.Proofs.Pattern.Literal
import RequestRouting.Proofs.Registry.Coverage
import RequestRouting.Proofs.Route.Ranking
import RequestRouting.Proofs.Tree.Precedence

/-!
# Requests for literal routes

A request whose path is the text of a registered literal route is answered alike by the tree and by
the linear matcher (`lookup_eq_fallback_of_literal`). The tree comes to the node of this text first,
where it has all routes with this text in the order of their registration. The linear matcher ranks
them before all others, and among them by their conditions alone, as the tree does.
-/

namespace RequestRouting
namespace Registry

variable {registry : Registry} {registration : Registration} {method : Method} {path : String}
  {request : Request}

theorem Consistent.head?_text (consistent : registry.Consistent)
    (registered : registration ∈ registry.registrations) :
    registration.pattern.text.toList.head? = some '/' := by
  obtain ⟨text, made⟩ := consistent.compiled registration registered
  exact made.head?_text

/-- At the end of a literal chain the tree has the routes with the same text, in the order of the
linear matcher. -/
theorem Consistent.entriesAt_literal (consistent : registry.Consistent)
    (registered : registration ∈ registry.registrations) (inTree : registration.inTree = true)
    (literal : ∀ segment ∈ (registration.chain method).segments, segment.style = .literal) :
    registry.tree.root.entriesAt ((registration.chain method).segments.map (·.text)) =
      (registry.fallback.entries.filter (·.method == method)).filter
        (·.pattern.text == registration.pattern.text) := by
  rw [consistent.indexed.holds.entriesAt_root, List.filter_filter, List.filter_filter]
  refine List.filter_congr fun entry present => ?_
  obtain ⟨owner, ownerRegistered, other, -, rfl⟩ := consistent.mem_entries_iff.1 present
  rw [Bool.eq_iff_iff]
  simp only [Bool.and_eq_true, decide_eq_true_eq, beq_iff_eq]
  constructor
  · rintro ⟨sameKeys, -⟩
    have same := eq_of_keys (fun _ => isCanonical_of_mem_ofPattern)
      (fun _ => isCanonical_of_mem_ofPattern) sameKeys
    exact (eq_of_segments_eq (consistent.head?_text registered)
      (consistent.head?_text ownerRegistered) literal same).symm
  · rintro ⟨sameText, sameMethod⟩
    have chain : (owner.entry other).chain = registration.chain method := by
      rw [RouteEntry.chain, Registration.chain, sameMethod, sameText]
    refine ⟨congrArg PatternTree.keys chain, ?_⟩
    rw [RouteEntry.isIndexed, sameText]
    exact inTree

/-- For the text of a literal route that answers the tree selects among all candidates with this
text. -/
theorem Consistent.lookup?_literal (consistent : registry.Consistent)
    (registered : registration ∈ registry.registrations) (inTree : registration.inTree = true)
    (literal : ∀ segment ∈ (registration.chain method).segments, segment.style = .literal)
    (answers : registration.Answers method path request)
    (own : registration.pattern.text = path) :
    let exact := (candidates request path (registry.fallback.entries.filter
      (·.method == method))).filter (·.entry.pattern.text == path)
    exact ≠ [] ∧ registry.tree.lookup? (.ofRequest method.name path) request path =
      some (select request .tree Candidate.compareConditions exact) := by
  intro exact
  have canonical : ∀ segment ∈ (registration.chain method).segments, segment.IsCanonical :=
    fun _ => isCanonical_of_mem_ofPattern
  have atEnd : candidates request path
      (registry.tree.root.entriesAt ((registration.chain method).segments.map (·.text))) =
        exact := by
    rw [consistent.entriesAt_literal registered inTree literal, own]
    exact (filter_candidates request path _ (·.pattern.text == path)).symm
  have some : exact ≠ [] := by
    rw [← atEnd, consistent.candidates_entriesAt_ne_nil canonical]
    exact ⟨registration, registered, method, inTree, answers, rfl⟩
  refine ⟨some, ?_⟩
  have chain : (registration.chain method).segments =
      (Chain.ofRequest method.name path).segments := by
    rw [← own]
    exact segments_of_literal literal
  rw [chain] at atEnd
  -- the segments of the request lead to the node by their own texts
  cases leads : registry.tree.root.at?
      ((Chain.ofRequest method.name path).segments.map (·.text)) with
  | none =>
      rw [Node.entriesAt, leads] at atEnd
      exact absurd atEnd.symm some
  | some target =>
      rw [Node.entriesAt, leads] at atEnd
      rw [← Chain.onward_cursor] at leads
      have search := Node.search_of_at? _ (atEnd.symm ▸ some) leads
      rw [PatternTree.lookup?, search, atEnd]

/-- For the text of a literal route that is registered, the tree and the linear matcher have one
answer. -/
theorem lookup_eq_fallback_of_literal [Regex.Dialect] (config : Config) (history : List Change)
    (method : Method) (path : String) (request : Request) :
    let registry := after config history
    let slashed := Pattern.slashed path
    config.usePatternTree = true →
    ∀ registration ∈ registry.registrations, registration.inTree = true →
      method ∈ registration.methods → registration.pattern.text = slashed →
      (∀ segment ∈ (registration.chain method).segments, segment.style = .literal) →
      (registration.conditions.matching? request).isSome →
      IsWeakOrderOn (Candidate.compareForPath slashed)
        (candidates request slashed (registry.fallback.entries.filter (·.method == method))) →
      (registry.lookup method path request).mapMatch
          (fun found => { found with source := .fallback }) =
        registry.fallback.lookup method path request := by
  intro registry slashed indexing registration registered inTree listed own literal satisfied weak
  have consistent : registry.Consistent := consistent_after config history
  have configured : registry.config.usePatternTree = true := by rw [config_after, indexing]
  have matched : (registration.pattern.match? slashed).isSome := by
    rw [← own]
    exact PathPattern.match?_text inTree (consistent.head?_text registered) literal
  have notAll : slashed ≠ "/**" := by
    intro all
    rw [Registration.chain, own, all, segments_ofPattern] at literal
    exact absurd (literal .doubleWildcard (List.mem_cons_of_mem _ (by decide))) (by decide)
  obtain ⟨some, indexed⟩ := consistent.lookup?_literal registered inTree literal
    ⟨listed, matched, satisfied⟩ own
  have answered : registry.lookup method path request = select request .tree
      Candidate.compareConditions ((candidates request slashed
        (registry.fallback.entries.filter (·.method == method))).filter
          (·.entry.pattern.text == slashed)) := by
    rw [lookup, if_pos configured, indexed]
  rw [answered, LinearMatcher.lookup]
  exact (select_of_exact request notAll weak some).symm

/-- Of two routes with the text of the request the one with a condition wins on both ways, among
routes that match as well. -/
theorem lookup_eq_fallback_of_condition :
    let registry := after {} [.register ⟨"/**", some .get, {}, "rest"⟩,
      .register ⟨"/a/{x}", some .get, {}, "variable"⟩,
      .register ⟨"/a/b", some .get, {}, "plain"⟩,
      .register ⟨"/a/b", some .get, { produces := ["text/html"] }, "page"⟩, .finalize]
    let request : Request := { method := .get, path := "/a/b" }
    ({} : Config).usePatternTree = true ∧
      IsWeakOrderOn (Candidate.compareForPath "/a/b")
        (candidates request "/a/b" (registry.fallback.entries.filter (·.method == .get))) ∧
      ∃ registration ∈ registry.registrations, registration.inTree = true ∧
        .get ∈ registration.methods ∧ registration.pattern.text = "/a/b" ∧
        (∀ segment ∈ (registration.chain .get).segments, segment.style = .literal) ∧
        (registration.conditions.matching? request).isSome ∧
        (registry.lookup .get "/a/b" request).mapMatch
            (fun found => { found with source := .fallback }) =
          registry.fallback.lookup .get "/a/b" request := by
  intro registry request
  have weak : IsWeakOrderOn (Candidate.compareForPath "/a/b")
      (candidates request "/a/b" (registry.fallback.entries.filter (·.method == .get))) := by
    decide +kernel
  have stored : ∃ registration ∈ registry.registrations, registration.inTree = true ∧
      .get ∈ registration.methods ∧ registration.pattern.text = "/a/b" ∧
      (∀ segment ∈ (registration.chain .get).segments, segment.style = .literal) ∧
      (registration.conditions.matching? request).isSome := by
    decide +kernel
  obtain ⟨registration, registered, inTree, listed, own, literal, satisfied⟩ := stored
  refine ⟨rfl, weak, registration, registered, inTree, listed, own, literal, satisfied, ?_⟩
  exact lookup_eq_fallback_of_literal {} _ .get "/a/b" request rfl registration registered inTree
    listed own literal satisfied weak

end Registry
end RequestRouting

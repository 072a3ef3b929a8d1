import RequestRouting.Proofs.Pattern.Alignment
import RequestRouting.Proofs.Registry.Lookup
import RequestRouting.Proofs.Tree.Coverage

/-!
# Routes that the tree misses

A finalized tree finds a route that it indexes whenever this route answers, but for patterns that
end with multi-segment wildcards for which nothing is left of a request (`lookup?_isSome_iff`).
Where a request ends, the search takes no more than one wildcard to be left over, and the slash
that ends a request is taken by no empty segment before the wildcards. What the tree misses is
left to the linear matcher.
-/

namespace RequestRouting

/-- A search comes along the patterns of the request's method only. -/
theorem method_of_reaches {method other : Method} {pattern path : String}
    (reaches : Reaches (Chain.ofPattern other.name pattern).segments
      (Chain.ofRequest method.name path).segments) : other = method := by
  have canonical : (Segment.literal other.name.toList).IsCanonical :=
    other.ofToken_name ▸ Segment.isCanonical_ofToken _
  rw [segments_ofPattern, segments_ofRequest] at reaches
  have tried := reaches.tried_of_closed rfl
  have text : String.ofList method.name.toList = String.ofList other.name.toList :=
    accepts_of_isTriedFor canonical tried
  exact (Method.name_injective (by simpa using text)).symm

namespace Registry

variable {registry : Registry} {segments : List Segment} {path : String} {request : Request}

/-- A candidate at the end of segments is a registered route that the tree indexes and that
answers, and the segments are its chain. -/
theorem Consistent.of_candidate_entriesAt (consistent : registry.Consistent)
    (canonical : ∀ segment ∈ segments, segment.IsCanonical) {candidate : Candidate}
    (member : candidate ∈
      candidates request path (registry.tree.root.entriesAt (segments.map (·.text)))) :
    ∃ registration ∈ registry.registrations, ∃ method, registration.inTree = true ∧
      registration.Answers method path request ∧
      segments = (registration.chain method).segments ∧
      candidate.entry = registration.entry method := by
  obtain ⟨entry, entryMember, made⟩ := mem_candidates.1 member
  obtain ⟨sameEntry, matched, satisfied⟩ := Candidate.of?_eq_some_iff.1 made
  obtain ⟨held, sameKeys⟩ := consistent.indexed.holds.mem_entriesAt_root.1 entryMember
  obtain ⟨present, indexed⟩ := List.mem_filter.1 held
  obtain ⟨registration, registered, method, listed, rfl⟩ := consistent.mem_entries_iff.1 present
  exact ⟨registration, registered, method, indexed,
    ⟨listed, Option.isSome_iff_exists.2 ⟨_, matched⟩, Option.isSome_iff_exists.2 ⟨_, satisfied⟩⟩,
    (eq_of_keys (fun _ => isCanonical_of_mem_ofPattern) canonical sameKeys).symm, sameEntry⟩

/-- There are candidates at the end of segments exactly if the segments are the chain of a
registered route that the tree indexes and that answers. -/
theorem Consistent.candidates_entriesAt_ne_nil (consistent : registry.Consistent)
    (canonical : ∀ segment ∈ segments, segment.IsCanonical) (path : String) (request : Request) :
    candidates request path (registry.tree.root.entriesAt (segments.map (·.text))) ≠ [] ↔
      ∃ registration ∈ registry.registrations, ∃ method, registration.inTree = true ∧
        registration.Answers method path request ∧
        segments = (registration.chain method).segments := by
  constructor
  · intro some
    obtain ⟨candidate, member⟩ := List.exists_mem_of_ne_nil _ some
    obtain ⟨registration, registered, method, indexed, answers, chain, -⟩ :=
      consistent.of_candidate_entriesAt canonical member
    exact ⟨registration, registered, method, indexed, answers, chain⟩
  · rintro ⟨registration, registered, method, indexed, answers, rfl⟩
    rw [Ne, RequestRouting.candidates_eq_nil_iff]
    intro none
    refine none (registration.entry method) ?_ ⟨answers.matched, answers.satisfied⟩
    have present : registration.entry method ∈ registry.fallback.entries :=
      consistent.mem_entries_iff.2 ⟨registration, registered, method, answers.listed, rfl⟩
    exact consistent.indexed.holds.mem_entriesAt_root.2
      ⟨List.mem_filter.2 ⟨present, indexed⟩, rfl⟩

/-- A registered pattern disregards a slash at the end exactly if the registry is set to. -/
theorem Consistent.slashAllowed (consistent : registry.Consistent) {registration : Registration}
    (registered : registration ∈ registry.registrations) :
    registration.pattern.slashAllowed = registry.config.trailingSlashMatch := by
  obtain ⟨text, made⟩ := consistent.compiled registration registered
  exact made.slashAllowed

/-- Where no slash at the end is disregarded, a search comes along the chain of a route that the
tree indexes and that answers, unless the tree gives it up too early. -/
theorem Consistent.reaches_iff (consistent : registry.Consistent)
    (exact : registry.config.trailingSlashMatch = false) {registration : Registration}
    (registered : registration ∈ registry.registrations) (inTree : registration.inTree = true)
    (slash : path.toList.head? = some '/') {method : Method}
    (answers : registration.Answers method path request) :
    Reaches (registration.chain method).segments (Chain.ofRequest method.name path).segments ↔
      ¬StopsShort (registration.chain method).segments
        (Chain.ofRequest method.name path).segments := by
  have exactly : registration.pattern.slashAllowed = false := by
    rw [consistent.slashAllowed registered, exact]
  exact reaches_of_match?_iff inTree exactly slash answers.matched method

/-- Where no slash at the end is disregarded, a finalized tree finds a route exactly if a
registered one that it indexes answers and is not given up too early. -/
theorem lookup?_isSome_iff [Regex.Dialect] (config : Config) (history : List Change)
    (finalized : (after config history).tree.finalized = true)
    (exact : config.trailingSlashMatch = false) (method : Method) (path : String)
    (request : Request) :
    let registry := after config history
    let slashed := Pattern.slashed path
    let chain := Chain.ofRequest method.name slashed
    (registry.tree.lookup? chain request slashed).isSome ↔
      ∃ registration ∈ registry.registrations, registration.inTree = true ∧
        registration.Answers method slashed request ∧
        ¬StopsShort (registration.chain method).segments chain.segments := by
  intro registry slashed chain
  have consistent : registry.Consistent := consistent_after config history
  have configured : registry.config.trailingSlashMatch = false := by rw [config_after, exact]
  have slash : slashed.toList.head? = some '/' := head?_slashed path
  rw [consistent.lookup?_eq_plain finalized, PatternTree.plainLookup?,
    Option.isSome_map, Node.plainSearch?_isSome_iff rfl consistent.indexed.holds.canonical,
    chain.onward_cursor]
  constructor
  · rintro ⟨segments, canonical, reaches, some⟩
    obtain ⟨registration, registered, own, inTree, answers, rfl⟩ :=
      (consistent.candidates_entriesAt_ne_nil canonical slashed request).1 some
    obtain rfl : own = method := method_of_reaches reaches
    exact ⟨registration, registered, inTree, answers,
      (consistent.reaches_iff configured registered inTree slash answers).1 reaches⟩
  · rintro ⟨registration, registered, inTree, answers, goesOn⟩
    have canonical : ∀ segment ∈ (registration.chain method).segments, segment.IsCanonical :=
      fun _ => isCanonical_of_mem_ofPattern
    exact ⟨_, canonical,
      (consistent.reaches_iff configured registered inTree slash answers).2 goesOn,
      (consistent.candidates_entriesAt_ne_nil canonical slashed request).2
        ⟨registration, registered, method, inTree, answers, rfl⟩⟩

/-- Of two multi-segment wildcards at the end of a pattern, one takes what is left of a request. -/
theorem lookup?_isSome_of_something_left :
    (after {} [.register ⟨"/a/**/**", some .get, {}, "rest"⟩, .finalize]).tree.finalized = true ∧
      ({} : Config).trailingSlashMatch = false ∧
      ((after {} [.register ⟨"/a/**/**", some .get, {}, "rest"⟩, .finalize]).tree.lookup?
          (.ofRequest "GET" "/a/b") { method := .get, path := "/a/b" } "/a/b").isSome := by
  refine ⟨rfl, rfl, (lookup?_isSome_iff {} _ rfl rfl .get "/a/b" _).2 ?_⟩
  have registered : ∃ registration ∈
      (after {} [.register ⟨"/a/**/**", some .get, {}, "rest"⟩, .finalize]).registrations,
      registration.inTree = true ∧
        registration.Answers .get "/a/b" { method := .get, path := "/a/b" } ∧
        stem (registration.chain .get).segments = [.literal ['G', 'E', 'T'], .literal ['a']] := by
    decide +kernel
  obtain ⟨registration, member, inTree, answers, front⟩ := registered
  refine ⟨registration, member, inTree, answers, ?_⟩
  rintro ⟨-, leavesNone⟩
  rw [front] at leavesNone
  exact leavesNone ⟨[.literal ['G', 'E', 'T'], .literal ['a']], [.literal ['b']],
    by decide +kernel, by decide, _, _, rfl, rfl, _, _, rfl, rfl, rfl⟩

/-- Nothing is left for the two wildcards, and the tree misses a route that it indexes and that
answers. -/
theorem lookup?_eq_none_of_nothing_left :
    let registry := after {} [.register ⟨"/a/**/**", some .get, {}, "rest"⟩, .finalize]
    let request : Request := { method := .get, path := "/a" }
    registry.tree.finalized = true ∧
      (∃ registration ∈ registry.registrations,
        registration.inTree = true ∧ registration.Answers .get "/a" request) ∧
      (registry.tree.lookup? (.ofRequest "GET" "/a") request "/a").isSome = false := by
  decide +kernel

end Registry
end RequestRouting

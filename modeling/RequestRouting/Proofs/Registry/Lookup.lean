import RequestRouting.Proofs.Registry.Consistency
import RequestRouting.Proofs.Route.Leading
import RequestRouting.Proofs.Tree.Trials
import RequestRouting.Regex.Standard

/-!
# Lookups answer for the registered routes

Whichever store answers, the outcome of a lookup is a selection among candidates of registered
routes that answer the request, and no route is reported only if none answers
(`lookup_of_history`). Where the tree answers, its shortcuts make no difference
(`lookup?_eq_plainLookup?`), so that two registries whose stores are related select among related
candidates (`contenders_related`).
-/

namespace RequestRouting

/-- Whether a registered route answers a request, of which method and path are given apart. -/
structure Registration.Answers (registration : Registration) (method : Method) (path : String)
    (request : Request) : Prop where
  listed : method ∈ registration.methods
  matched : (registration.pattern.match? path).isSome
  satisfied : (registration.conditions.matching? request).isSome

instance (registration : Registration) (method : Method) (path : String) (request : Request) :
    Decidable (registration.Answers method path request) :=
  decidable_of_iff (method ∈ registration.methods ∧
      (registration.pattern.match? path).isSome ∧
      (registration.conditions.matching? request).isSome)
    ⟨fun ⟨listed, matched, satisfied⟩ => ⟨listed, matched, satisfied⟩,
      fun answers => ⟨answers.listed, answers.matched, answers.satisfied⟩⟩

/-- The order by which a store ranks the candidates for a path. -/
def MatchSource.order (path : String) : MatchSource → Candidate → Candidate → Ordering
  | .tree => Candidate.compareConditions
  | .fallback => Candidate.compareForPath path

/-- The order by conditions is a weak order, so that the one by patterns alone has to be one. -/
theorem MatchSource.isWeakOrderOn_order {source : MatchSource} {path : String}
    {cs : List Candidate}
    (weak : source = .fallback → IsWeakOrderOn (Candidate.compareForPath path) cs) :
    IsWeakOrderOn (source.order path) cs := by
  cases source with
  | tree => exact Candidate.isWeakOrderOn_compareConditions cs
  | fallback => exact weak rfl

namespace Registry

variable {registry : Registry} {method : Method} {path : String} {request : Request}

/-- The candidates among which a lookup selects, with the store that has them: those at which the
search of the tree ends, or else all that the linear matcher has. -/
def contenders (registry : Registry) (method : Method) (path : String) (request : Request) :
    MatchSource × List Candidate :=
  let path := Pattern.slashed path
  let walk : Walk :=
    if registry.config.usePatternTree then
      registry.tree.root.search (candidates request path)
        (Chain.ofRequest method.name path).cursor []
    else .missed []
  match walk with
  | .found found => (.tree, found)
  | .missed _ =>
    (.fallback, candidates request path (registry.fallback.entries.filter (·.method == method)))

theorem head?_slashed (path : String) : (Pattern.slashed path).toList.head? = some '/' := by
  unfold Pattern.slashed
  split
  · assumption
  · simp

theorem slashed_slashed (path : String) :
    Pattern.slashed (Pattern.slashed path) = Pattern.slashed path := by
  have slash := head?_slashed path
  generalize Pattern.slashed path = slashed at slash
  rw [Pattern.slashed, if_pos slash]

/-- A lookup is a selection among its contenders, by the order of the store that has them. -/
theorem lookup_eq_select (registry : Registry) (method : Method) (path : String)
    (request : Request) :
    registry.lookup method path request =
      let contenders := registry.contenders method path request
      select request contenders.1 (contenders.1.order (Pattern.slashed path)) contenders.2 := by
  have linear : registry.fallback.lookup method (Pattern.slashed path) request =
      select request .fallback (Candidate.compareForPath (Pattern.slashed path))
        (candidates request (Pattern.slashed path)
          (registry.fallback.entries.filter (·.method == method))) := by
    rw [LinearMatcher.lookup, slashed_slashed]
  unfold lookup contenders PatternTree.lookup?
  dsimp only
  cases registry.config.usePatternTree with
  | false => exact linear
  | true =>
      cases registry.tree.root.search (candidates request (Pattern.slashed path))
        (Chain.ofRequest method.name (Pattern.slashed path)).cursor [] with
      | found found => rfl
      | missed rejected => exact linear

/-- The linear matcher answers with all of its candidates. -/
theorem contenders_of_fallback
    (linear : (registry.contenders method path request).1 = .fallback) :
    (registry.contenders method path request).2 =
      candidates request (Pattern.slashed path)
        (registry.fallback.entries.filter (·.method == method)) := by
  unfold contenders at linear ⊢
  dsimp only at linear ⊢
  split at linear
  · simp at linear
  · rfl

/-- The contenders that no other one precedes. -/
def leaders (registry : Registry) (method : Method) (path : String) (request : Request) :
    List Candidate :=
  let contenders := registry.contenders method path request
  leading (contenders.1.order (Pattern.slashed path)) contenders.2

/-- Patterns have to be in a weak order only where the linear matcher answers, which ranks all of
its candidates. -/
theorem weak_of_candidates
    (weak : (registry.contenders method path request).1 = .fallback →
      IsWeakOrderOn (Candidate.compareForPath (Pattern.slashed path))
        (candidates request (Pattern.slashed path)
          (registry.fallback.entries.filter (·.method == method)))) :
    IsWeakOrderOn ((registry.contenders method path request).1.order (Pattern.slashed path))
      (registry.contenders method path request).2 := by
  refine MatchSource.isWeakOrderOn_order fun linear => ?_
  rw [contenders_of_fallback linear]
  exact weak linear

/-- In a weak order the outcome is settled by the leaders. -/
theorem lookup_eq_settle
    (weak : IsWeakOrderOn
      ((registry.contenders method path request).1.order (Pattern.slashed path))
      (registry.contenders method path request).2) :
    registry.lookup method path request =
      settle request (registry.contenders method path request).1
        (registry.leaders method path request) := by
  rw [lookup_eq_select]
  exact select_eq_settle request _ weak

/-- The order by conditions is a weak order, so that what the tree answers is settled by the
leaders. -/
theorem lookup_eq_settle_of_tree
    (tree : (registry.contenders method path request).1 = .tree) :
    registry.lookup method path request =
      settle request .tree (registry.leaders method path request) := by
  rw [lookup_eq_settle (weak_of_candidates fun linear => ?_), tree]
  exact absurd (tree.symm.trans linear) (by decide)

/-- The contenders are the candidates among entries for the method. These are all such entries
unless there are candidates among fewer. -/
theorem Consistent.contenders_eq_candidates (consistent : registry.Consistent) (method : Method)
    (path : String) (request : Request) :
    ∃ own : List RouteEntry,
      own.Sublist (registry.fallback.entries.filter (·.method == method)) ∧
      (candidates request (Pattern.slashed path) own ≠ [] ∨
        own = registry.fallback.entries.filter (·.method == method)) ∧
      (registry.contenders method path request).2 =
        candidates request (Pattern.slashed path) own := by
  have only : (registry.tree.root.search (candidates request (Pattern.slashed path))
      (Chain.ofRequest method.name (Pattern.slashed path)).cursor []).Only fun found =>
        ∃ own : List RouteEntry,
          own.Sublist (registry.fallback.entries.filter (·.method == method)) ∧
          candidates request (Pattern.slashed path) own ≠ [] ∧
            found = candidates request (Pattern.slashed path) own :=
    consistent.indexed.holds.search_only fun own part some =>
      ⟨own, part.trans (List.filter_sublist.filter _), some, rfl⟩
  unfold contenders
  dsimp only
  split
  · rename_i found ended
    split at ended
    · rw [ended] at only
      obtain ⟨own, part, some, rfl⟩ := only
      exact ⟨own, part, .inl some, rfl⟩
    · simp at ended
  · exact ⟨_, .refl _, .inr rfl, rfl⟩

/-- A contender is a registered route that answers. -/
theorem Consistent.answers_of_contender (consistent : registry.Consistent) {candidate : Candidate}
    (member : candidate ∈ (registry.contenders method path request).2) :
    ∃ registration ∈ registry.registrations,
      registration.Answers method (Pattern.slashed path) request ∧
      candidate.entry = registration.entry method ∧
      registration.pattern.match? (Pattern.slashed path) = some candidate.params := by
  obtain ⟨own, part, -, same⟩ := consistent.contenders_eq_candidates method path request
  rw [same] at member
  obtain ⟨entry, entryMember, made⟩ := mem_candidates.1 member
  obtain ⟨sameEntry, matched, satisfied⟩ := Candidate.of?_eq_some_iff.1 made
  obtain ⟨present, sameMethod⟩ := List.mem_filter.1 (part.subset entryMember)
  obtain ⟨registration, registered, listed, isListed, rfl⟩ := consistent.mem_entries_iff.1 present
  obtain rfl : listed = method := beq_iff_eq.1 sameMethod
  exact ⟨registration, registered, ⟨isListed, Option.isSome_iff_exists.2 ⟨_, matched⟩,
    Option.isSome_iff_exists.2 ⟨_, satisfied⟩⟩, sameEntry, matched⟩

/-- The linear matcher has a candidate exactly if a registered route answers. -/
theorem Consistent.candidates_eq_nil_iff (consistent : registry.Consistent) :
    candidates request path (registry.fallback.entries.filter (·.method == method)) = [] ↔
      ∀ registration ∈ registry.registrations, ¬registration.Answers method path request := by
  rw [RequestRouting.candidates_eq_nil_iff]
  constructor
  · intro none registration registered answers
    refine none (registration.entry method) (List.mem_filter.2 ⟨?_, by simp [Registration.entry]⟩)
      ⟨answers.matched, answers.satisfied⟩
    exact consistent.mem_entries_iff.2 ⟨registration, registered, method, answers.listed, rfl⟩
  · rintro none entry member ⟨matched, satisfied⟩
    obtain ⟨present, sameMethod⟩ := List.mem_filter.1 member
    obtain ⟨registration, registered, listed, isListed, rfl⟩ := consistent.mem_entries_iff.1 present
    obtain rfl : listed = method := by simpa [Registration.entry] using sameMethod
    exact none registration registered ⟨isListed, matched, satisfied⟩

theorem Consistent.lookup_eq_noMatch_iff (consistent : registry.Consistent) :
    registry.lookup method path request = .noMatch ↔
      ∀ registration ∈ registry.registrations,
        ¬registration.Answers method (Pattern.slashed path) request := by
  obtain ⟨own, -, complete, same⟩ := consistent.contenders_eq_candidates method path request
  rw [lookup_eq_select, select_eq_noMatch_iff]
  -- the tree answers with candidates only; where there are none, all entries were looked at
  rcases complete with some | all
  · refine iff_of_false (same ▸ some) fun none => some ?_
    refine List.eq_nil_iff_forall_not_mem.2 fun candidate member => ?_
    obtain ⟨registration, registered, answers, -, -⟩ :=
      consistent.answers_of_contender (same ▸ member)
    exact none registration registered answers
  · rw [same, all]
    exact consistent.candidates_eq_nil_iff

/-- A route that is found is a registered one that answers, reported with its own data. -/
theorem Consistent.of_lookup_handler (consistent : registry.Consistent) {found : RouteMatch}
    (selected : registry.lookup method path request = .handler found) :
    ∃ registration, registry.registration? found.id = some registration ∧
      registration.Answers method (Pattern.slashed path) request ∧
      found.handler = registration.handler ∧ found.pattern = registration.pattern.text ∧
      registration.pattern.match? (Pattern.slashed path) = some found.params := by
  rw [lookup_eq_select] at selected
  obtain ⟨candidate, member, rfl⟩ := mem_of_select_handler selected
  obtain ⟨registration, registered, answers, sameEntry, matched⟩ :=
    consistent.answers_of_contender member
  refine ⟨registration, ?_, answers, ?_, ?_, matched⟩
  · simpa [Candidate.toMatch, sameEntry, Registration.entry] using
      consistent.registration?_eq_some registered
  · simp [Candidate.toMatch, sameEntry, Registration.entry]
  · simp [Candidate.toMatch, sameEntry, Registration.entry]

/-- The handlers that are named for a tie are those of registered routes that answer. -/
theorem Consistent.of_lookup_ambiguous (consistent : registry.Consistent)
    {first second handler : String}
    (selected : registry.lookup method path request = .ambiguous first second)
    (named : handler ∈ [first, second]) :
    ∃ registration ∈ registry.registrations,
      registration.Answers method (Pattern.slashed path) request ∧
        registration.handler = handler := by
  rw [lookup_eq_select] at selected
  obtain ⟨best, next, part, -, isFirst, isSecond⟩ := of_select_ambiguous selected
  have reported : ∃ candidate ∈ (registry.contenders method path request).2,
      candidate.entry.handler = handler := by
    rcases List.mem_pair.1 named with rfl | rfl
    · exact ⟨best, part.subset (by simp), isFirst⟩
    · exact ⟨next, part.subset (by simp), isSecond⟩
  obtain ⟨candidate, member, rfl⟩ := reported
  obtain ⟨registration, registered, answers, sameEntry, -⟩ :=
    consistent.answers_of_contender member
  exact ⟨registration, registered, answers, by rw [sameEntry]; rfl⟩

/-- After every history a lookup finds a route exactly if a registered one answers, and what it
reports of a route is true of a registered one that answers. -/
theorem lookup_of_history [Regex.Dialect] (config : Config) (history : List Change)
    (method : Method) (path : String) (request : Request) :
    let registry := after config history
    let slashed := Pattern.slashed path
    (registry.lookup method path request = .noMatch ↔
        ∀ registration ∈ registry.registrations,
          ¬registration.Answers method slashed request) ∧
      (∀ found, registry.lookup method path request = .handler found →
        ∃ registration, registry.registration? found.id = some registration ∧
          registration.Answers method slashed request ∧
          found.handler = registration.handler ∧ found.pattern = registration.pattern.text ∧
          registration.pattern.match? slashed = some found.params) ∧
      ∀ first second, registry.lookup method path request = .ambiguous first second →
        ∀ handler ∈ [first, second], ∃ registration ∈ registry.registrations,
          registration.Answers method slashed request ∧ registration.handler = handler := by
  intro registry slashed
  have consistent : registry.Consistent := consistent_after config history
  refine ⟨consistent.lookup_eq_noMatch_iff, ?_, ?_⟩
  · intro found selected
    exact consistent.of_lookup_handler selected
  · intro first second selected handler named
    exact consistent.of_lookup_ambiguous selected named

/-! ## Shortcuts of the tree -/

/-- Entries with one id belong to one registration, so that they are candidates together. -/
theorem Consistent.evaluatesRoutes (consistent : registry.Consistent) (request : Request)
    (path : String) :
    EvaluatesRoutes (candidates request path) registry.fallback.entries where
  each some := by
    induction some with
    | nil => rfl
    | cons entry rest ih =>
        rw [List.flatMap_cons, ← ih, candidates, candidates, candidates, List.filterMap_cons,
          List.filterMap_cons]
        cases Candidate.of? request path entry <;> rfl
  alike a ha b hb same none := by
    obtain ⟨registration, registered, method, -, rfl⟩ := consistent.mem_entries_iff.1 ha
    have entry := consistent.entry_of_id registered hb same.symm
    have shared : ∀ method, candidates request path [registration.entry method] = [] ↔
        ¬((registration.pattern.match? path).isSome ∧
          (registration.conditions.matching? request).isSome) := by
      intro method
      rw [RequestRouting.candidates_eq_nil_iff]
      simp [Registration.entry]
    rw [entry]
    exact (shared b.method).2 ((shared method).1 none)

/-- On a tree whose marks are right the shortcuts change nothing that is found. -/
theorem Consistent.search_eq_plain (consistent : registry.Consistent)
    (finalized : registry.tree.finalized = true) (chain : Chain) (request : Request)
    (path : String) :
    (registry.tree.root.search (candidates request path) chain.cursor []).candidates? =
      registry.tree.root.plainSearch? (candidates request path) chain.cursor := by
  have holds := consistent.indexed.holds
  have held : registry.tree.root.Everywhere fun node =>
      ∀ entry ∈ node.entries, entry ∈ registry.fallback.entries :=
    holds.everywhere.imp fun node here entry member => List.mem_of_mem_filter (here entry member)
  exact (Node.search_agrees (consistent.evaluatesRoutes request path)
    (consistent.indexed.marked finalized) holds.canonical held chain.cursor
    (fun _ _ rejected => absurd rejected List.not_mem_nil)).candidates?

/-- On a tree whose marks are right the shortcuts change no answer. -/
theorem Consistent.lookup?_eq_plain (consistent : registry.Consistent)
    (finalized : registry.tree.finalized = true) (chain : Chain) (request : Request)
    (path : String) :
    registry.tree.lookup? chain request path = registry.tree.plainLookup? chain request path := by
  rw [PatternTree.plainLookup?, ← consistent.search_eq_plain finalized, PatternTree.lookup?]
  cases registry.tree.root.search (candidates request path) chain.cursor [] <;> rfl

/-- The candidates for a request that are found by searching the tree without shortcuts. -/
def found? (registry : Registry) (method : Method) (path : String) (request : Request) :
    Option (List Candidate) :=
  if registry.config.usePatternTree then
    registry.tree.root.plainSearch? (candidates request (Pattern.slashed path))
      (Chain.ofRequest method.name (Pattern.slashed path)).cursor
  else none

/-- On a tree whose marks are right the contenders are what a search without shortcuts finds, or
what the linear matcher has. -/
theorem Consistent.contenders_eq_plain (consistent : registry.Consistent)
    (finalized : registry.tree.finalized = true) (method : Method) (path : String)
    (request : Request) :
    registry.contenders method path request =
      match registry.found? method path request with
      | some found => (.tree, found)
      | none => (.fallback, candidates request (Pattern.slashed path)
          (registry.fallback.entries.filter (·.method == method))) := by
  unfold found?
  rw [← consistent.search_eq_plain finalized]
  unfold contenders
  cases registry.config.usePatternTree with
  | false => rfl
  | true =>
      dsimp only
      cases registry.tree.root.search (candidates request (Pattern.slashed path))
        (Chain.ofRequest method.name (Pattern.slashed path)).cursor [] <;> rfl

/-- Two registries in which the same keys lead to related candidates have related contenders, from
the same store, if nothing is related to no candidates only. -/
theorem Consistent.contenders_related {other : Registry} (consistent : registry.Consistent)
    (consistent' : other.Consistent) (finalized : registry.tree.finalized = true)
    (finalized' : other.tree.finalized = true) (config : other.config = registry.config)
    {R : List Candidate → List Candidate → Prop} (nothing : ∀ cs, R [] cs → cs = [])
    (stored : ∀ keys, R
      (candidates request (Pattern.slashed path) (registry.tree.root.entriesAt keys))
      (candidates request (Pattern.slashed path) (other.tree.root.entriesAt keys)))
    (linear : R
      (candidates request (Pattern.slashed path)
        (registry.fallback.entries.filter (·.method == method)))
      (candidates request (Pattern.slashed path)
        (other.fallback.entries.filter (·.method == method)))) :
    ∃ cs, R (registry.contenders method path request).2 cs ∧
      (((registry.contenders method path request).2 ≠ [] → cs ≠ []) →
        other.contenders method path request =
          ((registry.contenders method path request).1, cs)) := by
  have none : ∀ keys,
      candidates request (Pattern.slashed path) (registry.tree.root.entriesAt keys) = [] →
        candidates request (Pattern.slashed path) (other.tree.root.entriesAt keys) = [] := by
    intro keys none
    exact nothing _ (none ▸ stored keys)
  have search := Node.plainSearch?_elsewhere none rfl rfl
    (Chain.ofRequest method.name (Pattern.slashed path)).cursor
  rw [consistent.contenders_eq_plain finalized, consistent'.contenders_eq_plain finalized']
  unfold found?
  rw [config]
  cases registry.config.usePatternTree with
  | false => exact ⟨_, linear, fun _ => rfl⟩
  | true =>
      simp only [↓reduceIte]
      split at search
      · rename_i missed
        rw [search, missed]
        exact ⟨_, linear, fun _ => rfl⟩
      · rename_i found ended
        obtain ⟨some, keys, rfl, there⟩ := search
        rw [ended]
        refine ⟨_, stored keys, fun occupied => ?_⟩
        rw [there (occupied some)]

/-- The shortcuts of a search change no answer of a tree whose marks were renewed after the last
insertion, whatever was removed since then. -/
theorem lookup?_eq_plainLookup? [Regex.Dialect] (config : Config) (history : List Change)
    (finalized : (after config history).tree.finalized = true) (chain : Chain)
    (request : Request) (path : String) :
    (after config history).tree.lookup? chain request path =
      (after config history).tree.plainLookup? chain request path :=
  (consistent_after config history).lookup?_eq_plain finalized chain request path

/-- The shortcuts are at work below a literal segment of a finalized tree. -/
theorem lookup?_eq_plainLookup?_below_literal :
    (after {} [.register ⟨"/a/**", some .get, {}, "rest"⟩, .finalize]).tree.finalized = true ∧
      (after {} [.register ⟨"/a/**", some .get, {}, "rest"⟩, .finalize]).tree.lookup?
          (.ofRequest "GET" "/a/b") { method := .get, path := "/a/b" } "/a/b" =
        (after {} [.register ⟨"/a/**", some .get, {}, "rest"⟩, .finalize]).tree.plainLookup?
          (.ofRequest "GET" "/a/b") { method := .get, path := "/a/b" } "/a/b" :=
  ⟨rfl, lookup?_eq_plainLookup? _ _ rfl _ _ _⟩

end Registry
end RequestRouting

import Mathlib.Data.List.Chain
import RequestRouting.Proofs.Registry.Coverage
import RequestRouting.Proofs.Tree.Precedence

/-!
# Which route wins

Of the routes that the tree indexes and that answer a request, the one it chooses has the first
chain: where its chain leaves that of another route, it ends or has the stronger style
(`lookup_precedes`). Two kinds of routes are outside this order. What follows a multi-segment
wildcard that both chains have is decided by the segments it takes, and a route that the tree gives
up too early is not compared at all.
-/

namespace RequestRouting
namespace Registry

variable {registry : Registry} {method : Method} {path : String} {request : Request}

/-- A match that is said to come from the tree was found there. -/
theorem lookup?_eq_of_source {found : RouteMatch}
    (selected : registry.lookup method path request = .handler found)
    (source : found.source = .tree) :
    registry.tree.lookup? (.ofRequest method.name (Pattern.slashed path)) request
      (Pattern.slashed path) = some (.handler found) := by
  unfold lookup at selected
  dsimp only at selected
  split at selected
  · rename_i result indexed
    rw [selected] at indexed
    exact (Option.ite_none_right_eq_some.1 indexed).2
  · obtain ⟨candidate, -, rfl⟩ := mem_of_select_handler selected
    exact absurd (show MatchSource.fallback = .tree from source) (by decide)

/-- A match that the tree reports for plain segments is a registered route, whose chain precedes
those of all routes that the search comes along. -/
theorem Consistent.precedes_of_lookup? (consistent : registry.Consistent)
    (finalized : registry.tree.finalized = true)
    (plain : ∀ taken ∈ (Chain.ofRequest method.name path).segments, taken.IsPlain)
    {found : RouteMatch}
    (indexed : registry.tree.lookup? (.ofRequest method.name path) request path =
      some (.handler found)) :
    ∃ winner, registry.registration? found.id = some winner ∧ winner.inTree = true ∧
      winner.Answers method path request ∧
      ∀ other ∈ registry.registrations, other.inTree = true →
        other.Answers method path request →
        Reaches (other.chain method).segments (Chain.ofRequest method.name path).segments →
        Precedes (winner.chain method).segments (other.chain method).segments := by
  have holds := consistent.indexed.holds
  rw [consistent.lookup?_eq_plain finalized, PatternTree.plainLookup?] at indexed
  obtain ⟨cs, ended, selected⟩ := Option.map_eq_some_iff.1 indexed
  obtain ⟨segments, canonical, reaches, rfl, first⟩ :=
    Node.plainSearch?_findsFirst rfl holds.canonical (by rwa [Chain.onward_cursor]) ended
  rw [Chain.onward_cursor] at reaches first
  obtain ⟨candidate, member, rfl⟩ := mem_of_select_handler selected
  obtain ⟨winner, registered, own, inTree, answers, rfl, entry⟩ :=
    consistent.of_candidate_entriesAt canonical member
  obtain rfl : own = method := method_of_reaches reaches
  refine ⟨winner, ?_, inTree, answers, ?_⟩
  · rw [show (candidate.toMatch .tree).id = winner.id by rw [Candidate.toMatch, entry]; rfl]
    exact consistent.registration?_eq_some registered
  · intro other otherRegistered otherInTree otherAnswers comesAlong
    have canonicalOther : ∀ segment ∈ (other.chain own).segments, segment.IsCanonical :=
      fun _ => isCanonical_of_mem_ofPattern
    exact first _ canonicalOther comesAlong
      ((consistent.candidates_entriesAt_ne_nil canonicalOther path request).2
        ⟨other, otherRegistered, own, otherInTree, otherAnswers, rfl⟩)

/-- Of multi-segment wildcards none of which stands next to another, one at most ends a pattern. -/
theorem length_openings_le_one {segments : List Segment}
    (apart : segments.IsChain fun a b => ¬(a.isOpen = true ∧ b.isOpen = true)) :
    (openings segments).length ≤ 1 := by
  by_contra several
  match split : openings segments, several with
  | [], several | [_], several => simp at several
  | first :: second :: others, _ =>
      have opened : ∀ segment ∈ openings segments, segment.isOpen = true :=
        fun segment => isOpen_of_mem_openings
      rw [← stem_append_openings segments] at apart
      have together := apart.right_of_append
      rw [split] at together opened
      exact (List.isChain_cons_cons.1 together).1 ⟨opened first (by simp), opened second (by simp)⟩

/-- A route that the tree chooses for plain segments precedes every other that it indexes and that
answers: at the first difference of their chains it has the stronger style, or its chain ends there.
Left out are routes with a multi-segment wildcard behind an empty segment, for which nothing is left
of the request. -/
theorem lookup_precedes [Regex.Dialect] (config : Config) (history : List Change)
    (finalized : (after config history).tree.finalized = true)
    (exact : config.trailingSlashMatch = false) (method : Method) (path : String)
    (request : Request) :
    let registry := after config history
    let slashed := Pattern.slashed path
    let taken := (Chain.ofRequest method.name slashed).segments
    (∀ segment ∈ taken, segment.IsPlain) →
    ∀ found, registry.lookup method path request = .handler found → found.source = .tree →
      ∃ winner, registry.registration? found.id = some winner ∧ winner.inTree = true ∧
        winner.Answers method slashed request ∧
        ∀ other ∈ registry.registrations, other.inTree = true →
          other.Answers method slashed request →
          ((other.chain method).segments.IsChain fun a b =>
            ¬(a.isOpen = true ∧ b.isOpen = true)) →
          (EndsEmpty (other.chain method).segments →
            LeavesSome (stem (other.chain method).segments) taken) →
          ∀ common left right, (winner.chain method).segments = common ++ left →
            (other.chain method).segments = common ++ right → left.head? ≠ right.head? →
            (∀ segment ∈ common, segment.isOpen = false) →
            left = [] ∨ ∃ mine ∈ left.head?, ∃ its ∈ right.head?,
              mine.style.rank < its.style.rank := by
  intro registry slashed taken plain found selected source
  have consistent : registry.Consistent := consistent_after config history
  have configured : registry.config.trailingSlashMatch = false := by rw [config_after, exact]
  obtain ⟨winner, isWinner, inTree, answers, first⟩ :=
    consistent.precedes_of_lookup? finalized plain (lookup?_eq_of_source selected source)
  refine ⟨winner, isWinner, inTree, answers, ?_⟩
  intro other registered otherInTree otherAnswers apart leaves common left right mine its differ
    closed
  have goesOn : ¬StopsShort (other.chain method).segments taken := by
    rintro ⟨several | empty, leavesNone⟩
    · exact absurd (length_openings_le_one apart) (Nat.not_le_of_lt several)
    · exact leavesNone (leaves empty)
  have reaches := (consistent.reaches_iff configured registered otherInTree (head?_slashed path)
    otherAnswers).2 goesOn
  have precedes := first other registered otherInTree otherAnswers reaches
  rw [mine, its] at precedes
  exact precedes.at_difference closed differ

/-- Behind a literal segment that leads nowhere the variable wins over the rest of the path. -/
theorem lookup_precedes_rest :
    let registry := after {} [.register ⟨"/a/b/x", some .get, {}, "literal"⟩,
      .register ⟨"/a/{id}/c", some .get, {}, "variable"⟩,
      .register ⟨"/a/**", some .get, {}, "rest"⟩, .finalize]
    let request : Request := { method := .get, path := "/a/b/c" }
    let common : List Segment := [.literal ['G', 'E', 'T'], .literal ['a']]
    let left : List Segment := [.parameter, .literal ['c']]
    let right : List Segment := [.doubleWildcard]
    registry.tree.finalized = true ∧ ({} : Config).trailingSlashMatch = false ∧
      (∀ segment ∈ (Chain.ofRequest "GET" "/a/b/c").segments, segment.IsPlain) ∧
      ∃ found winner, registry.lookup .get "/a/b/c" request = .handler found ∧
        found.source = .tree ∧ registry.registration? found.id = some winner ∧
        (winner.chain .get).segments = common ++ left ∧
        ∃ other ∈ registry.registrations, other.inTree = true ∧
          other.Answers .get "/a/b/c" request ∧ (other.chain .get).segments = common ++ right ∧
          ((common ++ right).IsChain fun a b => ¬(a.isOpen = true ∧ b.isOpen = true)) ∧
          ¬EndsEmpty (common ++ right) ∧ left.head? ≠ right.head? ∧
          (∀ segment ∈ common, segment.isOpen = false) ∧
          (left = [] ∨ ∃ mine ∈ left.head?, ∃ its ∈ right.head?,
            mine.style.rank < its.style.rank) := by
  intro registry request common left right
  have plain : ∀ segment ∈ (Chain.ofRequest "GET" "/a/b/c").segments, segment.IsPlain := by
    decide +kernel
  have answered : ∃ found ∈ (registry.lookup .get "/a/b/c" request).match?, found.source = .tree ∧
      ∃ winner ∈ registry.registration? found.id,
        (winner.chain .get).segments = common ++ left := by
    decide +kernel
  have beaten : ∃ other ∈ registry.registrations, other.inTree = true ∧
      other.Answers .get "/a/b/c" request ∧ (other.chain .get).segments = common ++ right := by
    decide +kernel
  obtain ⟨found, matched, source, winner, isWinner, mine⟩ := answered
  obtain ⟨other, registered, inTree, answers, its⟩ := beaten
  have selected : registry.lookup .get "/a/b/c" request = .handler found :=
    MatchResult.match?_eq_some_iff.1 matched
  have closed : ∀ segment ∈ common, segment.isOpen = false := by decide
  have differ : left.head? ≠ right.head? := by decide
  have apart : (common ++ right).IsChain fun a b => ¬(a.isOpen = true ∧ b.isOpen = true) := by
    decide
  have notEmpty : ¬EndsEmpty (common ++ right) := by
    rintro ⟨-, last⟩
    exact absurd last (by decide)
  obtain ⟨first, isFirst, -, -, precedes⟩ :=
    lookup_precedes {} _ rfl rfl .get "/a/b/c" request plain found selected source
  obtain rfl : first = winner := Option.some.inj (isFirst.symm.trans isWinner)
  refine ⟨rfl, rfl, plain, found, first, selected, source, isWinner, mine, other, registered,
    inTree, answers, its, apart, notEmpty, differ, closed, ?_⟩
  exact precedes other registered inTree answers (by rwa [its])
    (fun empty => absurd (its ▸ empty) notEmpty) common left right mine its differ closed

/-- The slash that ends a request is not taken by the empty segment of a pattern before the
multi-segment wildcard, so that the tree chooses the weaker route. -/
theorem lookup_skips_empty_segment :
    let registry := after {} [.register ⟨"/a//**", some .get, {}, "inner"⟩,
      .register ⟨"/a/**", some .get, {}, "outer"⟩, .finalize]
    let request : Request := { method := .get, path := "/a/" }
    let common : List Segment := [.literal ['G', 'E', 'T'], .literal ['a']]
    registry.tree.finalized = true ∧ registry.config.usePatternTree = true ∧
      registry.config.trailingSlashMatch = false ∧
      (∀ segment ∈ (Chain.ofRequest "GET" "/a/").segments, segment.IsPlain) ∧
      (∃ found ∈ (registry.lookup .get "/a/" request).match?, found.source = .tree ∧
        ∃ winner ∈ registry.registration? found.id,
          (winner.chain .get).segments = common ++ [.doubleWildcard]) ∧
      (∃ other ∈ registry.registrations, other.inTree = true ∧
        other.Answers .get "/a/" request ∧
        (other.chain .get).segments = common ++ [.literal [], .doubleWildcard]) ∧
      ¬SegmentStyle.doubleWildcard.rank < SegmentStyle.literal.rank := by
  decide +kernel

end Registry
end RequestRouting

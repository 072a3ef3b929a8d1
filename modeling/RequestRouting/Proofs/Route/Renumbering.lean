import RequestRouting.Proofs.Route.Leading

/-!
# Routes under other ids

No step of a selection looks at ids. Routes under other ids are candidates alike
(`candidates_renumber`), and those that lead settle the same outcome up to ids in any order, except
for which two of them are named for a tie (`settle_renumber`).
-/

namespace RequestRouting

/-- The route under another id. -/
def RouteEntry.renumber (renumber : RouteId → RouteId) (entry : RouteEntry) : RouteEntry :=
  { entry with id := renumber entry.id }

/-- The candidate with its route under another id. -/
def Candidate.renumber (renumber : RouteId → RouteId) (candidate : Candidate) : Candidate :=
  { candidate with entry := candidate.entry.renumber renumber }

/-- Whether two outcomes are the same but for ids, and for which two of the leaders are named. -/
inductive MatchResult.SameUpTo (renumber : RouteId → RouteId) (leaders : List Candidate) :
    MatchResult → MatchResult → Prop
  | handler (found : RouteMatch) :
      SameUpTo renumber leaders (.handler found)
        (.handler { found with id := renumber found.id })
  | noMatch : SameUpTo renumber leaders .noMatch .noMatch
  | ambiguous {first second first' second' : String}
      (named : [first, second].Subperm (leaders.map (·.entry.handler)))
      (named' : [first', second'].Subperm (leaders.map (·.entry.handler))) :
      SameUpTo renumber leaders (.ambiguous first second) (.ambiguous first' second')
  | ambiguousPreflight : SameUpTo renumber leaders .ambiguousPreflight .ambiguousPreflight

variable {renumber : RouteId → RouteId} {leaders others : List Candidate}

/-- The candidates among routes under other ids are those under the old ones. -/
theorem candidates_renumber (request : Request) (path : String) (entries : List RouteEntry) :
    candidates request path (entries.map (RouteEntry.renumber renumber)) =
      (candidates request path entries).map (Candidate.renumber renumber) := by
  unfold candidates
  rw [List.filterMap_map, List.map_filterMap]
  refine List.filterMap_congr fun entry _ => ?_
  show Candidate.of? request path (entry.renumber renumber) = _
  unfold Candidate.of? RouteEntry.renumber
  cases entry.pattern.match? path <;> cases entry.conditions.matching? request <;> rfl

/-- The first two leaders have handlers of two leaders. -/
theorem subperm_handlers (best next : Candidate) (rest : List Candidate) :
    [best.entry.handler, next.entry.handler].Subperm
      ((best :: next :: rest).map (·.entry.handler)) :=
  ((List.nil_sublist _).cons_cons _ |>.cons_cons _).subperm

/-- Leaders under other ids and in another order settle the same outcome. -/
theorem settle_renumber (request : Request) (source : MatchSource)
    (perm : others.Perm (leaders.map (Candidate.renumber renumber))) :
    MatchResult.SameUpTo renumber leaders (settle request source leaders)
      (settle request source others) := by
  match leaders with
  | [] =>
      rw [List.map_nil, List.perm_nil] at perm
      subst perm
      exact .noMatch
  | [best] =>
      rw [List.map_singleton, List.perm_singleton] at perm
      subst perm
      exact .handler (best.toMatch source)
  | best :: next :: rest =>
      obtain ⟨best', next', rest', rfl⟩ : ∃ best' next' rest', others = best' :: next' :: rest' := by
        have two : others.length = rest.length + 2 := by simpa using perm.length_eq
        match others, two with
        | best' :: next' :: rest', _ => exact ⟨best', next', rest', rfl⟩
      have crossOrigin : (best' :: next' :: rest').any (·.conditions.crossOrigin) =
          (best :: next :: rest).any (·.conditions.crossOrigin) := by
        rw [perm.any_eq, List.any_map]
        rfl
      have handlers : ((best' :: next' :: rest').map (·.entry.handler)).Perm
          ((best :: next :: rest).map (·.entry.handler)) := by
        have mapped := perm.map (·.entry.handler)
        rwa [List.map_map] at mapped
      rw [settle, settle, crossOrigin]
      split
      · exact .ambiguousPreflight
      · exact .ambiguous (subperm_handlers best next rest)
          ((subperm_handlers best' next' rest').trans handlers.subperm)

end RequestRouting

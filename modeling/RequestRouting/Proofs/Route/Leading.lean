import Mathlib.Data.List.TakeWhile
import RequestRouting.Proofs.Route.Ranking

/-!
# The candidates that lead

Those candidates lead that no other one precedes. In a weak order they decide a selection: one that
leads alone is returned, and several tie (`select_eq_settle`). Unlike a sort this depends neither on
the order of the candidates (`leading_perm`) nor on those that do not lead (`leading_filter`).
-/

namespace RequestRouting

/-! ## Weak orders -/

section

variable {α β : Type} {compare : α → α → Ordering} {values others : List α}

/-- No value precedes itself. -/
theorem IsWeakOrderOn.self (weak : IsWeakOrderOn compare values) {a : α} (member : a ∈ values) :
    compare a a ≠ .gt := by
  have swapped := weak.swap a member a member
  intro after
  simp [after] at swapped

/-- A weak order of some values is one of fewer values. -/
theorem IsWeakOrderOn.mono (weak : IsWeakOrderOn compare values)
    (part : ∀ a ∈ others, a ∈ values) : IsWeakOrderOn compare others where
  swap a ha b hb := weak.swap a (part a ha) b (part b hb)
  trans a ha b hb c hc := weak.trans a (part a ha) b (part b hb) c (part c hc)

/-- Values that compare as others do are ordered as these are. -/
theorem IsWeakOrderOn.map {compare' : β → β → Ordering} {f : α → β}
    (weak : IsWeakOrderOn compare values)
    (order : ∀ a ∈ values, ∀ b ∈ values, compare a b = compare' (f a) (f b)) :
    IsWeakOrderOn compare' (values.map f) := by
  constructor
  · intro a' ha' b' hb'
    obtain ⟨a, ha, rfl⟩ := List.mem_map.1 ha'
    obtain ⟨b, hb, rfl⟩ := List.mem_map.1 hb'
    rw [← order a ha b hb, ← order b hb a ha]
    exact weak.swap a ha b hb
  · intro a' ha' b' hb' c' hc'
    obtain ⟨a, ha, rfl⟩ := List.mem_map.1 ha'
    obtain ⟨b, hb, rfl⟩ := List.mem_map.1 hb'
    obtain ⟨c, hc, rfl⟩ := List.mem_map.1 hc'
    rw [← order a ha b hb, ← order b hb c hc, ← order a ha c hc]
    exact weak.trans a ha b hb c hc

/-- Values are in a weak order if what they are compared by is. -/
theorem IsWeakOrderOn.comap {compare' : β → β → Ordering} {f : α → β}
    (weak : IsWeakOrderOn compare' (values.map f)) :
    IsWeakOrderOn (fun a b => compare' (f a) (f b)) values := by
  constructor
  · intro a ha b hb
    exact weak.swap _ (List.mem_map_of_mem ha) _ (List.mem_map_of_mem hb)
  · intro a ha b hb c hc
    exact weak.trans _ (List.mem_map_of_mem ha) _ (List.mem_map_of_mem hb) _
      (List.mem_map_of_mem hc)

/-- A weak order that decides where another one ties makes a weak order with it. -/
theorem IsWeakOrderOn.then {next : α → α → Ordering} (weak : IsWeakOrderOn compare values)
    (weakNext : IsWeakOrderOn next values) :
    IsWeakOrderOn (fun a b => (compare a b).then (next a b)) values := by
  constructor
  · intro a ha b hb
    rw [weak.swap a ha b hb, weakNext.swap a ha b hb]
    cases compare a b <;> rfl
  · intro a ha b hb c hc ab bc
    have notAfter : ∀ {x y : α}, (compare x y).then (next x y) ≠ .gt → compare x y ≠ .gt := by
      intro x y xy after
      exact xy (by rw [after]; rfl)
    have ac := weak.trans a ha b hb c hc (notAfter ab) (notAfter bc)
    cases order : compare a c with
    | lt => exact nofun
    | gt => exact absurd order ac
    | eq =>
        -- the outer two tie, and so each of them with the one between
        have ca : compare c a ≠ .gt := by
          rw [weak.swap a ha c hc, order]
          decide
        have ba := weak.trans b hb c hc a ha (notAfter bc) ca
        have cb := weak.trans c hc a ha b hb ca (notAfter ab)
        rw [weak.swap a ha b hb] at ba
        rw [weak.swap b hb c hc] at cb
        have tiedAB : compare a b = .eq := by
          cases order : compare a b <;> simp_all
        have tiedBC : compare b c = .eq := by
          cases order : compare b c <;> simp_all
        rw [tiedAB] at ab
        rw [tiedBC] at bc
        exact weakNext.trans a ha b hb c hc ab bc

/-- A comparison that is lawful of all values is a weak order of some. -/
theorem IsWeakOrderOn.of_transCmp [Std.TransCmp compare] : IsWeakOrderOn compare values where
  swap _ _ _ _ := Std.OrientedCmp.eq_swap
  trans _ _ _ _ _ _ ab bc := by
    exact Ordering.isLE_iff_ne_gt.1 (Std.TransCmp.isLE_trans (Ordering.isLE_iff_ne_gt.2 ab)
      (Ordering.isLE_iff_ne_gt.2 bc))

end

/-- Conditions are compared by four numbers, one after the other. -/
instance : Std.TransCmp Conditions.compare :=
  inferInstanceAs <| Std.TransCmp <|
    compareLex (fun a b => compareOn (·.params.length) b a) <|
      compareLex (fun a b => compareOn (·.headers.length) b a) <|
        compareLex (fun a b => compareOn (·.consumes.length) b a)
          fun a b : Conditions => compareOn (·.produces.length) b a

/-- The order of candidates by their conditions is a weak order. -/
theorem Candidate.isWeakOrderOn_compareConditions (cs : List Candidate) :
    IsWeakOrderOn Candidate.compareConditions cs := by
  have all : IsWeakOrderOn Conditions.compare (cs.map (·.conditions)) := .of_transCmp
  exact all.comap

/-! ## Leaders -/

section

variable {α : Type} {compare : α → α → Ordering} {values others : List α}

/-- The values that no other one precedes, in their order. -/
def leading (compare : α → α → Ordering) (values : List α) : List α :=
  values.filter fun a => values.all fun b => compare a b != .gt

theorem mem_leading {a : α} :
    a ∈ leading compare values ↔ a ∈ values ∧ ∀ b ∈ values, compare a b ≠ .gt := by
  simp [leading]

/-- If there are values, one of them leads. -/
theorem leading_ne_nil (weak : IsWeakOrderOn compare values) (some : values ≠ []) :
    leading compare values ≠ [] := by
  suffices leader : ∃ a ∈ values, ∀ b ∈ values, compare a b ≠ .gt by
    obtain ⟨a, leads⟩ := leader
    exact List.ne_nil_of_mem (mem_leading.2 leads)
  induction values with
  | nil => exact absurd rfl some
  | cons a rest ih =>
      have self := weak.self List.mem_cons_self
      by_cases alone : rest = []
      · subst alone
        exact ⟨a, List.mem_cons_self, by simpa using self⟩
      · have later : ∀ b ∈ rest, b ∈ a :: rest := fun b => List.mem_cons_of_mem a
        obtain ⟨least, member, first⟩ := ih (weak.mono later) alone
        -- the value in front leads, or the one that leads those behind it
        by_cases before : compare a least = .gt
        · refine ⟨least, later least member, ?_⟩
          intro b hb
          rcases List.mem_cons.1 hb with rfl | hb
          · rw [weak.swap b List.mem_cons_self least (later least member), before]
            decide
          · exact first b hb
        · refine ⟨a, List.mem_cons_self, ?_⟩
          intro b hb
          rcases List.mem_cons.1 hb with rfl | hb
          · exact self
          · exact weak.trans a List.mem_cons_self least (later least member) b (later b hb) before
              (first b hb)

/-- Values that lead tie. -/
theorem compare_of_leading (weak : IsWeakOrderOn compare values) {a b : α}
    (ha : a ∈ leading compare values) (hb : b ∈ leading compare values) :
    compare a b = .eq := by
  obtain ⟨memberA, first⟩ := mem_leading.1 ha
  obtain ⟨memberB, first'⟩ := mem_leading.1 hb
  have notAfter := first b memberB
  have notBefore := first' a memberA
  rw [weak.swap a memberA b memberB] at notBefore
  cases order : compare a b <;> simp_all

/-- A value that leads precedes each that does not. -/
theorem compare_of_not_leading (weak : IsWeakOrderOn compare values) {a b : α}
    (ha : a ∈ leading compare values) (hb : b ∈ values) (behind : b ∉ leading compare values) :
    compare a b = .lt := by
  obtain ⟨memberA, first⟩ := mem_leading.1 ha
  cases order : compare a b with
  | lt => rfl
  | gt => exact absurd order (first b hb)
  | eq =>
      -- what ties with a leader leads
      refine absurd (mem_leading.2 ⟨hb, fun c hc => ?_⟩) behind
      have tied : compare b a ≠ .gt := by
        rw [weak.swap a memberA b hb, order]
        decide
      exact weak.trans b hb a memberA c hc tied (first c hc)

/-- If a leader is kept, those lead that are kept of the leaders. -/
theorem leading_filter (weak : IsWeakOrderOn compare values) {keep : α → Bool}
    (some : ∃ a ∈ leading compare values, keep a = true) :
    leading compare (values.filter keep) = (leading compare values).filter keep := by
  obtain ⟨leader, leads, kept⟩ := some
  obtain ⟨member, first⟩ := mem_leading.1 leads
  unfold leading
  rw [List.filter_filter, List.filter_filter]
  refine List.filter_congr fun a ha => ?_
  have same : ((values.filter keep).all fun b => compare a b != .gt) =
      values.all fun b => compare a b != .gt := by
    rw [Bool.eq_iff_iff, List.all_eq_true, List.all_eq_true]
    simp only [bne_iff_ne]
    constructor
    · intro firstKept b hb
      exact weak.trans a ha leader member b hb
        (firstKept leader (List.mem_filter.2 ⟨member, kept⟩)) (first b hb)
    · intro first b hb
      exact first b (List.mem_of_mem_filter hb)
  rw [same, Bool.and_comm]

/-- The order of values does not matter for which of them lead. -/
theorem leading_perm (perm : values.Perm others) :
    (leading compare values).Perm (leading compare others) := by
  unfold leading
  have same : (fun a => values.all fun b => compare a b != .gt) =
      fun a => others.all fun b => compare a b != .gt :=
    funext fun _ => perm.all_eq
  rw [same]
  exact perm.filter _

/-- Values that compare as others do lead as these do. -/
theorem leading_map {β : Type} {compare' : β → β → Ordering} (f : α → β)
    (order : ∀ a ∈ values, ∀ b ∈ values, compare a b = compare' (f a) (f b)) :
    leading compare' (values.map f) = (leading compare values).map f := by
  unfold leading
  rw [List.filter_map]
  refine congrArg (List.map f) (List.filter_congr fun a ha => ?_)
  rw [Function.comp_apply, List.all_map, Bool.eq_iff_iff, List.all_eq_true, List.all_eq_true]
  refine forall₂_congr fun b hb => ?_
  rw [Function.comp_apply, order a ha b hb]

end

/-! ## Selections -/

/-- The outcome for the candidates that lead. -/
def settle (request : Request) (source : MatchSource) : List Candidate → MatchResult
  | [] => .noMatch
  | [best] => .handler (best.toMatch source)
  | best :: next :: others =>
    if request.isPreflight && (best :: next :: others).any (·.conditions.crossOrigin) then
      .ambiguousPreflight
    else .ambiguous best.entry.handler next.entry.handler

/-- One candidate is returned exactly if it leads alone. -/
theorem settle_eq_handler_iff {request : Request} {source : MatchSource} {leaders : List Candidate}
    {found : RouteMatch} :
    settle request source leaders = .handler found ↔
      ∃ best, leaders = [best] ∧ best.toMatch source = found := by
  constructor
  · intro settled
    match leaders with
    | [] => exact absurd settled (by simp [settle])
    | [best] => exact ⟨best, rfl, MatchResult.handler.inj settled⟩
    | best :: next :: others =>
        rw [settle] at settled
        split at settled <;> exact absurd settled (by simp)
  · rintro ⟨best, rfl, rfl⟩
    rfl

variable {compare : Candidate → Candidate → Ordering} {cs : List Candidate}

/-- Of candidates that all tie none is dropped or moved. -/
theorem select_of_tied (request : Request) (source : MatchSource)
    (tied : ∀ a ∈ cs, ∀ b ∈ cs, compare a b = .eq) :
    select request source compare cs = settle request source cs := by
  have sorted : ranked compare cs = cs := by
    refine List.mergeSort_of_pairwise (List.pairwise_iff_forall_sublist.2 ?_)
    intro a b pair
    have members := pair.subset
    simp [tied a (members (by simp)) b (members (by simp))]
  unfold select
  rw [sorted]
  match cs with
  | [] => rfl
  | [best] => rfl
  | best :: next :: others =>
      have all : (best :: next :: others).takeWhile (compare best · == .eq) =
          best :: next :: others :=
        List.takeWhile_eq_self_iff.2 fun c member => by simp [tied best List.mem_cons_self c member]
      show (if compare best next = .eq then _ else _) = _
      rw [if_pos (tied best (by simp) next (by simp))]
      simp only [all]
      rfl

/-- In a weak order a selection depends on the candidates that lead. -/
theorem select_eq_settle (request : Request) (source : MatchSource)
    (weak : IsWeakOrderOn compare cs) :
    select request source compare cs = settle request source (leading compare cs) := by
  by_cases none : cs = []
  · subst none
    exact select_of_tied request source fun a member => absurd member List.not_mem_nil
  · have leads : ∀ a ∈ cs, (cs.all fun b => compare a b != .gt) = true →
        a ∈ leading compare cs := fun a member first => List.mem_filter.2 ⟨member, first⟩
    have first : ∀ a ∈ cs, ∀ b ∈ cs, (cs.all fun c => compare a c != .gt) = true →
        (cs.all fun c => compare b c != .gt) = false → compare a b = .lt := by
      intro a ha b hb leadsA notB
      refine compare_of_not_leading weak (leads a ha leadsA) hb fun leadsB => ?_
      have isFirst : (cs.all fun c => compare b c != .gt) = true := (List.mem_filter.1 leadsB).2
      exact absurd isFirst (by simp [notB])
    rw [select_of_first request source weak first (leading_ne_nil weak none)]
    exact select_of_tied request source fun a ha b hb => compare_of_leading weak ha hb

end RequestRouting

import RequestRouting.Condition.Basic

/-!
# What a match leaves of conditions

Conditions that a request satisfies are left as they are, except for media types that did not match
(`Conditions.matching?_eq_some_iff`). One condition more is still there after a match and makes the
conditions rank before those without it, and what a match leaves matches again without change
(`Conditions.matching?_of_narrows_and_again`).
-/

namespace RequestRouting
namespace Conditions

/-! ## Media types -/

/-- Whether the media types with a property are kept of those declared, and some are if any are
declared. -/
def Keeps (keep : String → Bool) (declared kept : List String) : Prop :=
  kept = declared.filter keep ∧ (kept = [] → declared = [])

namespace Keeps

variable {keep : String → Bool} {declared kept : List String} {mediaType : String}

theorem nil : Keeps keep [] [] := ⟨rfl, fun _ => rfl⟩

theorem sublist (keeps : Keeps keep declared kept) : kept.Sublist declared := by
  rw [keeps.1]
  exact List.filter_sublist

/-- What is kept is kept again. -/
theorem again (keeps : Keeps keep declared kept) : Keeps keep kept kept := by
  refine ⟨?_, id⟩
  rw [keeps.1, List.filter_filter]
  simp

theorem eq_singleton (keeps : Keeps keep [mediaType] kept) : kept = [mediaType] := by
  obtain ⟨rfl, full⟩ := keeps
  by_cases here : keep mediaType = true
  · simp [here]
  · simp [here] at full

theorem of_filter (full : declared ≠ []) :
    (if (declared.filter keep).isEmpty then none else some (declared.filter keep)) = some kept ↔
      Keeps keep declared kept := by
  unfold Keeps
  grind

end Keeps

/-- Whether a declared media type covers that of the body. -/
def covers (request : Request) (declared : String) : Bool :=
  request.contentType?.any (MediaType.includes declared)

/-- Whether the client accepts a declared media type. -/
def isAccepted (request : Request) (declared : String) : Bool :=
  request.accept.isEmpty || request.accept.any (MediaType.compatible declared)

variable {request : Request} {conditions narrower matched matched' : Conditions}
  {mediaTypes : List String}

theorem consumed?_eq_some_iff : conditions.consumed? request = some mediaTypes ↔
    Keeps (covers request) conditions.consumes mediaTypes := by
  unfold consumed?
  split
  · rename_i none
    rw [List.isEmpty_iff.1 none]
    simp [Keeps, eq_comm]
  · rename_i full
    rw [List.isEmpty_iff] at full
    rw [← Keeps.of_filter full]
    unfold covers
    cases request.contentType? <;> simp

theorem produced?_eq_some_iff : conditions.produced? request = some mediaTypes ↔
    Keeps (isAccepted request) conditions.produces mediaTypes := by
  unfold produced?
  split
  · rename_i none
    rw [List.isEmpty_iff.1 none]
    simp [Keeps, eq_comm]
  · rename_i full
    rw [List.isEmpty_iff] at full
    rw [← Keeps.of_filter full]
    unfold isAccepted
    split
    · rename_i all
      have same : conditions.produces.filter (fun _ => true) = conditions.produces := by simp
      simp only [all, Bool.true_or, same, List.isEmpty_iff, if_neg full]
    · rename_i some
      simp [some]

/-! ## Matches -/

/-- Whether the parameters and headers of a request are as conditions ask. -/
def HoldsFor (conditions : Conditions) (request : Request) : Prop :=
  (∀ p ∈ conditions.params, p.holds (request.query.get? p.name) = true) ∧
    ∀ h ∈ conditions.headers, h.holds (request.header? h.name) = true

/-- A match leaves all conditions if the request is a preflight, and else all but the media types
that did not match. -/
theorem matching?_eq_some_iff : conditions.matching? request = some matched ↔
    request.isPreflight = true ∧ matched = conditions ∨
    request.isPreflight = false ∧ conditions.HoldsFor request ∧
      ∃ consumes produces, Keeps (covers request) conditions.consumes consumes ∧
        Keeps (isAccepted request) conditions.produces produces ∧
          matched = { conditions with consumes, produces } := by
  simp only [← consumed?_eq_some_iff, ← produced?_eq_some_iff]
  unfold matching?
  split
  · rename_i preflight
    simp [preflight, eq_comm (a := matched)]
  · rename_i other
    split
    · rename_i param
      rw [Bool.not_eq_true', ← Bool.not_eq_true, List.all_eq_true] at param
      simp [other, show ¬ conditions.HoldsFor request from fun holds => param holds.1]
    · rename_i params
      rw [Bool.not_eq_true', Bool.not_eq_false, List.all_eq_true] at params
      split
      · rename_i header
        rw [Bool.not_eq_true', ← Bool.not_eq_true, List.all_eq_true] at header
        simp [other, show ¬ conditions.HoldsFor request from fun holds => header holds.2]
      · rename_i headers
        rw [Bool.not_eq_true', Bool.not_eq_false, List.all_eq_true] at headers
        simp [other, show conditions.HoldsFor request from ⟨params, headers⟩,
          Option.bind_eq_some_iff, eq_comm (a := matched)]

/-! ## One condition more -/

/-- Whether conditions are others and one more: on a parameter or a header, at any place, or the
first on the media type of the body or of the answer. -/
inductive Narrows (conditions : Conditions) : Conditions → Prop where
  | param {front back} (condition : NameValue) (split : conditions.params = front ++ back) :
    Narrows conditions { conditions with params := front ++ condition :: back }
  | header {front back} (condition : NameValue) (split : conditions.headers = front ++ back) :
    Narrows conditions { conditions with headers := front ++ condition :: back }
  | consumes (mediaType : String) (none : conditions.consumes = []) :
    Narrows conditions { conditions with consumes := [mediaType] }
  | produces (mediaType : String) (none : conditions.produces = []) :
    Narrows conditions { conditions with produces := [mediaType] }

theorem compare_length_insert {α : Type} (front back : List α) (a : α) :
    Ord.compare (front ++ back).length (front ++ a :: back).length = .lt := by
  rw [Nat.compare_eq_lt]
  simp

/-- Conditions rank before those without one of them. -/
theorem Narrows.compare_eq_lt (narrows : Narrows conditions narrower) :
    narrower.compare conditions = .lt := by
  cases narrows with
  | param condition split => rw [compare, split, compare_length_insert]; rfl
  | header condition split => rw [compare, split, compare_length_insert]; simp
  | consumes mediaType none => simp [compare, none, Nat.compare_eq_lt]
  | produces mediaType none => simp [compare, none, Nat.compare_eq_lt]

/-- What a match leaves of conditions with one more has one more than what it leaves without. -/
theorem Narrows.matching? (narrows : Narrows conditions narrower)
    (found : narrower.matching? request = some matched') :
    ∃ matched, conditions.matching? request = some matched ∧ Narrows matched matched' := by
  simp only [matching?_eq_some_iff] at found ⊢
  rcases found with ⟨preflight, rfl⟩ | ⟨other, holds, consumes, produces, kept, kept', rfl⟩
  · exact ⟨conditions, .inl ⟨preflight, rfl⟩, narrows⟩
  · cases narrows with
    | @param front back condition split =>
        have holds' : conditions.HoldsFor request := by
          refine ⟨fun p member => holds.1 p ?_, holds.2⟩
          rw [split] at member
          exact (List.sublist_cons_self condition back).append_left front |>.subset member
        exact ⟨_, .inr ⟨other, holds', consumes, produces, kept, kept', rfl⟩,
          .param condition split⟩
    | @header front back condition split =>
        have holds' : conditions.HoldsFor request := by
          refine ⟨holds.1, fun h member => holds.2 h ?_⟩
          rw [split] at member
          exact (List.sublist_cons_self condition back).append_left front |>.subset member
        exact ⟨_, .inr ⟨other, holds', consumes, produces, kept, kept', rfl⟩,
          .header condition split⟩
    | consumes mediaType none =>
        -- the only media type has matched
        obtain rfl := kept.eq_singleton
        exact ⟨_, .inr ⟨other, holds, [], produces, none.symm ▸ .nil, kept', rfl⟩,
          .consumes mediaType rfl⟩
    | produces mediaType none =>
        obtain rfl := kept'.eq_singleton
        exact ⟨_, .inr ⟨other, holds, consumes, [], kept, none.symm ▸ .nil, rfl⟩,
          .produces mediaType rfl⟩

/-! ## What matched matches again -/

/-- Whether conditions are others without some of the media types, of which some are left if there
were any. -/
structure Refines (matched conditions : Conditions) : Prop where
  params_eq : matched.params = conditions.params
  headers_eq : matched.headers = conditions.headers
  crossOrigin_eq : matched.crossOrigin = conditions.crossOrigin
  consumes_sublist : matched.consumes.Sublist conditions.consumes
  produces_sublist : matched.produces.Sublist conditions.produces
  consumes_eq_nil : matched.consumes = [] → conditions.consumes = []
  produces_eq_nil : matched.produces = [] → conditions.produces = []

theorem refines_of_matching? (found : conditions.matching? request = some matched) :
    Refines matched conditions := by
  rcases matching?_eq_some_iff.1 found with ⟨-, rfl⟩ | ⟨-, -, consumes, produces, kept, kept', rfl⟩
  · exact ⟨rfl, rfl, rfl, .refl _, .refl _, id, id⟩
  · exact ⟨rfl, rfl, rfl, kept.sublist, kept'.sublist, kept.2, kept'.2⟩

/-- What a match leaves matches again without change. -/
theorem matching?_again (found : conditions.matching? request = some matched) :
    matched.matching? request = some matched := by
  rw [matching?_eq_some_iff] at found ⊢
  rcases found with ⟨preflight, -⟩ | ⟨other, holds, consumes, produces, kept, kept', rfl⟩
  · exact .inl ⟨preflight, rfl⟩
  · exact .inr ⟨other, holds, consumes, produces, kept.again, kept'.again, rfl⟩

/-- Where conditions with one more are satisfied, so are those without it, and after the match they
rank behind. What a match leaves of conditions are these conditions without some media types, and
it matches again without change. -/
theorem matching?_of_narrows_and_again (request : Request) (conditions : Conditions) :
    (∀ narrower matched', Narrows conditions narrower →
        narrower.matching? request = some matched' →
          ∃ matched, conditions.matching? request = some matched ∧
            matched'.compare matched = .lt) ∧
      ∀ matched, conditions.matching? request = some matched →
        Refines matched conditions ∧ matched.matching? request = some matched := by
  constructor
  · intro narrower matched' narrows found
    obtain ⟨matched, found', narrows'⟩ := narrows.matching? found
    exact ⟨matched, found', narrows'.compare_eq_lt⟩
  · intro matched found
    exact ⟨refines_of_matching? found, matching?_again found⟩

/-- Of two media types for the answer one is accepted, with a header that must be missing and
without it. -/
theorem matching?_of_one_accepted :
    let request : Request := ⟨.get, "/", .empty, .ofList [("Accept", "image/*, text/html;q=0.9")]⟩
    let conditions : Conditions := { produces := ["application/json", "text/*"] }
    let narrower := { conditions with headers := [NameValue.parse "!x-debug"] }
    Narrows conditions narrower ∧
      ∃ matched', narrower.matching? request = some matched' ∧ matched'.produces = ["text/*"] ∧
        ∃ matched, conditions.matching? request = some matched ∧
          matched'.compare matched = .lt ∧ Refines matched conditions ∧
            matched.matching? request = some matched := by
  intro request conditions narrower
  have narrows : Narrows conditions narrower := @Narrows.header conditions [] [] _ rfl
  have found : ∃ matched', narrower.matching? request = some matched' ∧
      matched'.produces = ["text/*"] := by
    decide +kernel
  obtain ⟨matched', found', kept⟩ := found
  obtain ⟨less, refined⟩ := matching?_of_narrows_and_again request conditions
  obtain ⟨matched, found, behind⟩ := less narrower matched' narrows found'
  exact ⟨narrows, matched', found', kept, matched, found, behind, refined matched found⟩

end Conditions
end RequestRouting

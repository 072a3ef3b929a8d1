import Mathlib.Data.List.DropRight
import Mathlib.Data.List.Infix
import RequestRouting.Text.Blank
import RequestRouting.Text.Cut

/-!
# What cutting and trimming leave

A text is cut where its mark stands first (`of_cut?`, `cut?_append`), and is not cut if the mark
does not stand in it (`cut?_eq_none_iff`). What is trimmed has no blank at its ends, and such texts
stay as they are (`trim_eq_self`).
-/

namespace RequestRouting.Text

/-! ## Cutting -/

section

variable {mark cs before after : List Char}

theorem cut?_cons (mark : List Char) (c : Char) (cs : List Char) :
    cut? mark (c :: cs) = if mark <+: c :: cs then some ([], (c :: cs).drop mark.length)
      else (cut? mark cs).map fun (before, after) => (c :: before, after) := by
  simp only [cut?, List.isPrefixOf_iff_prefix]

theorem cut?_eq_none_iff (full : mark ≠ []) : cut? mark cs = none ↔ ¬ mark <:+: cs := by
  induction cs with
  | nil => simp [cut?, full]
  | cons c cs ih =>
      rw [cut?_cons, List.infix_cons_iff]
      split <;> simp_all

/-- A text that is cut consists of both parts and the mark, and the first part does not hold the
mark. -/
theorem of_cut? (full : mark ≠ []) (cut : cut? mark cs = some (before, after)) :
    cs = before ++ mark ++ after ∧ ¬ mark <:+: before := by
  induction cs generalizing before with
  | nil => exact absurd cut (by simp [cut?])
  | cons c cs ih =>
      rw [cut?_cons] at cut
      split at cut
      · rename_i here
        obtain ⟨rest, whole⟩ := here
        rw [← whole] at cut ⊢
        obtain ⟨rfl, rfl⟩ : [] = before ∧ rest = after := by simpa using cut
        exact ⟨rfl, by simpa using full⟩
      · rename_i notHere
        obtain ⟨⟨before', after'⟩, later, same⟩ := Option.map_eq_some_iff.1 cut
        obtain ⟨rfl, rfl⟩ := Prod.mk.inj same
        obtain ⟨rfl, absent⟩ := ih later
        refine ⟨rfl, fun inside => ?_⟩
        rcases List.infix_cons_iff.1 inside with first | inside
        · exact notHere (first.trans ⟨mark ++ after', by simp⟩)
        · exact absent inside

/-- A text is cut behind its first part if the mark does not begin there. -/
theorem cut?_append (full : mark ≠ []) (absent : ¬ mark <:+: before ++ mark.dropLast)
    (after : List Char) : cut? mark (before ++ mark ++ after) = some (before, after) := by
  induction before with
  | nil =>
      obtain ⟨m, ms, rfl⟩ := List.exists_cons_of_ne_nil full
      simp [cut?, List.isPrefixOf_iff_prefix]
  | cons c before ih =>
      have notHere : ¬ mark <+: c :: (before ++ mark ++ after) := by
        intro first
        have front : c :: before ++ mark.dropLast <+: c :: (before ++ mark ++ after) := by
          rw [← List.cons_append, ← List.cons_append, List.append_assoc]
          exact (List.prefix_append_right_inj _).2
            ((List.dropLast_prefix mark).trans (List.prefix_append mark after))
        -- as long as the mark is, it ends before the place where it has to stand
        have ends : mark.length ≤ (c :: before ++ mark.dropLast).length := by
          have := List.length_pos_iff.2 full
          simp
          omega
        exact absent (List.prefix_of_prefix_length_le first front ends).isInfix
      rw [List.cons_append, List.cons_append, cut?_cons, if_neg notHere,
        ih fun inside => absent (List.infix_cons inside)]
      rfl

/-- A mark of one character stands where this character is first. -/
theorem cut?_singleton {c : Char} (absent : c ∉ before) (after : List Char) :
    cut? [c] (before ++ c :: after) = some (before, after) := by
  have notBefore : ¬ [c] <:+: before ++ [c].dropLast := by
    simpa [List.singleton_infix_iff] using absent
  have cut := cut?_append (List.cons_ne_nil c []) notBefore after
  rwa [List.append_assoc] at cut

end

/-! ## Trimming -/

section

variable {cs : List Char}

theorem trimEnd_concat (cs : List Char) (c : Char) :
    trimEnd (cs ++ [c]) = if isBlank c then trimEnd cs else cs ++ [c] := by
  induction cs with
  | nil => rfl
  | cons first cs ih =>
      rw [List.cons_append, trimEnd, ih]
      by_cases blank : isBlank c = true
      · simp [blank, trimEnd]
      · simp [blank]

theorem trimEnd_eq_rdropWhile (cs : List Char) : trimEnd cs = cs.rdropWhile isBlank := by
  induction cs using List.reverseRecOn with
  | nil => rfl
  | append_singleton cs c ih => rw [trimEnd_concat, List.rdropWhile_concat, ih]

/-- Whether a text neither begins nor ends with a blank. -/
def IsTrimmed (cs : List Char) : Prop :=
  (∀ c ∈ cs.head?, isBlank c = false) ∧ ∀ c ∈ cs.getLast?, isBlank c = false

theorem trim_eq_self (trimmed : IsTrimmed cs) : trim cs = cs := by
  have front : cs.dropWhile isBlank = cs := by
    cases cs with
    | nil => rfl
    | cons c cs => exact List.dropWhile_cons_of_neg (by simp [trimmed.1 c rfl])
  rw [trim, front, trimEnd_eq_rdropWhile, List.rdropWhile_eq_self_iff]
  intro full
  simp [trimmed.2 _ (List.getLast?_eq_some_getLast full)]

theorem isTrimmed_trim (cs : List Char) : IsTrimmed (trim cs) := by
  rw [trim, trimEnd_eq_rdropWhile]
  constructor
  · intro c first
    obtain ⟨rest, whole⟩ := List.rdropWhile_prefix isBlank (cs.dropWhile isBlank)
    have head : (cs.dropWhile isBlank).head? = some c := by
      rw [← whole, List.head?_append, first, Option.some_or]
    have notBlank := List.head?_dropWhile_not isBlank cs
    rwa [head] at notBlank
  · intro c last
    have full : (cs.dropWhile isBlank).rdropWhile isBlank ≠ [] := fun none => by simp [none] at last
    rw [List.getLast?_eq_some_getLast full, Option.mem_some_iff] at last
    rw [← last]
    exact Bool.eq_false_iff.2 (List.rdropWhile_last_not isBlank _ full)

theorem trim_isInfix (cs : List Char) : trim cs <:+: cs := by
  rw [trim, trimEnd_eq_rdropWhile]
  exact (List.rdropWhile_prefix ..).isInfix.trans (List.dropWhile_suffix _).isInfix

end

end RequestRouting.Text

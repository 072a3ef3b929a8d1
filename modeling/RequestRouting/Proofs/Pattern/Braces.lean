import Mathlib.Data.List.Infix
import Mathlib.Order.Bounds.Basic
import RequestRouting.Pattern.Token

/-!
# The brace that closes another

The search for the brace that closes the first one of a text counts the braces that are open. This
number never gets below zero (`staysOpen_searched`), and the search ends at the first closing brace
at which it is zero, or finds none (`closingBrace?_eq_some_iff`, `closingBrace?_eq_none_iff`).
-/

namespace RequestRouting

/-! ## Depths -/

/-- How many braces are open at the end of a text, where each closed one counts against them. -/
def braceDepth (cs : List Char) : Int :=
  cs.count '{' - cs.count '}'

/-- Whether the character at an index is a closing brace at which no brace is open any more. -/
def ClosesAt (cs : List Char) (index : Nat) : Prop :=
  cs[index]? = some '}' ∧ braceDepth (cs.take (index + 1)) = 0

/-- Whether at no place of a text more braces have been closed than opened, where `depth` were open
before it. -/
def StaysOpen (depth : Nat) (cs : List Char) : Prop :=
  ∀ seen, seen <+: cs → 0 ≤ depth + braceDepth seen

/-- Whether the brace between two parts of a text is the first one for which no open brace is left,
where `depth` were open before it. -/
structure Closes (depth : Nat) (cs inner rest : List Char) : Prop where
  whole : cs = inner ++ '}' :: rest
  staysOpen : StaysOpen depth inner
  level : depth + braceDepth inner = 0

section

variable {depth next : Nat} {c : Char} {cs inner rest : List Char}

@[simp] theorem braceDepth_nil : braceDepth [] = 0 := rfl

theorem braceDepth_append (cs more : List Char) :
    braceDepth (cs ++ more) = braceDepth cs + braceDepth more := by
  simp only [braceDepth, List.count_append]
  omega

theorem braceDepth_cons (c : Char) (cs : List Char) :
    braceDepth (c :: cs) = braceDepth [c] + braceDepth cs :=
  braceDepth_append [c] cs

theorem StaysOpen.nil (depth : Nat) : StaysOpen depth [] := by
  intro seen first
  rw [List.prefix_nil.1 first, braceDepth_nil]
  omega

theorem StaysOpen.cons (moves : (next : Int) = depth + braceDepth [c])
    (later : StaysOpen next cs) : StaysOpen depth (c :: cs) := by
  intro seen first
  rcases List.prefix_cons_iff.1 first with rfl | ⟨seen, rfl, inside⟩
  · simp
  · have step := later seen inside
    rw [braceDepth_cons]
    omega

theorem Closes.cons (moves : (next : Int) = depth + braceDepth [c])
    (later : Closes next cs inner rest) : Closes depth (c :: cs) (c :: inner) rest := by
  obtain ⟨rfl, staysOpen, level⟩ := later
  refine ⟨rfl, staysOpen.cons moves, ?_⟩
  rw [braceDepth_cons]
  omega

/-! ## The search -/

/-- One step of the search: it ends at a closing brace if no other brace is open, or else goes on
behind the character. -/
theorem closingBrace?_cons (depth : Nat) (c : Char) (cs : List Char) :
    (depth = 0 ∧ c = '}' ∧ closingBrace? depth (c :: cs) = some ([], cs)) ∨
      ∃ next : Nat, (next : Int) = depth + braceDepth [c] ∧
        closingBrace? depth (c :: cs) =
          (closingBrace? next cs).map fun (inner, rest) => (c :: inner, rest) := by
  by_cases closing : c = '}'
  · subst closing
    cases depth with
    | zero => exact .inl ⟨rfl, rfl, rfl⟩
    | succ depth =>
        have moves : (depth : Int) = (depth + 1 : Nat) + braceDepth ['}'] := by
          show (depth : Int) = (depth + 1 : Nat) + -1
          omega
        exact .inr ⟨depth, moves, by rw [closingBrace?]⟩
  · by_cases opening : c = '{'
    · subst opening
      exact .inr ⟨depth + 1, rfl, by rw [closingBrace?]⟩
    · have moves : (depth : Int) = depth + braceDepth [c] := by
        simp [braceDepth, opening, closing]
      refine .inr ⟨depth, moves, ?_⟩
      rw [closingBrace?]
      · exact opening
      · exact fun _ => closing
      · exact fun _ _ => closing

/-- The brace that is found is the first one for which no open brace is left. -/
theorem closes_of_closingBrace? (closed : closingBrace? depth cs = some (inner, rest)) :
    Closes depth cs inner rest := by
  induction cs generalizing depth inner with
  | nil => simp [closingBrace?] at closed
  | cons c cs ih =>
      rcases closingBrace?_cons depth c cs with ⟨rfl, rfl, ends⟩ | ⟨next, moves, goesOn⟩
      · obtain ⟨rfl, rfl⟩ := Prod.mk.inj (Option.some.inj (ends.symm.trans closed))
        exact ⟨rfl, .nil 0, rfl⟩
      · rw [goesOn] at closed
        obtain ⟨⟨inner', rest'⟩, found, same⟩ := Option.map_eq_some_iff.1 closed
        obtain ⟨rfl, rfl⟩ := Prod.mk.inj same
        exact (ih found).cons moves

/-- If no brace is found, no more braces are closed than are open. -/
theorem staysOpen_of_closingBrace? (unclosed : closingBrace? depth cs = none) :
    StaysOpen depth cs := by
  induction cs generalizing depth with
  | nil => exact .nil depth
  | cons c cs ih =>
      rcases closingBrace?_cons depth c cs with ⟨rfl, rfl, ends⟩ | ⟨next, moves, goesOn⟩
      · simp [ends] at unclosed
      · rw [goesOn, Option.map_eq_none_iff] at unclosed
        exact (ih unclosed).cons moves

/-! ## The first brace at which the braces balance -/

/-- Behind an open brace that is not closed the braces do not balance. -/
theorem not_closesAt {seen : List Char} (staysOpen : StaysOpen 0 seen) (first : seen <+: cs)
    {index : Nat} (inside : index ≤ seen.length) : ¬ ClosesAt ('{' :: cs) index := by
  intro ⟨_, balanced⟩
  have part : cs.take index <+: seen :=
    List.prefix_of_prefix_length_le (List.take_prefix index cs) first (by simp; omega)
  have notBelow := staysOpen _ part
  rw [List.take_succ_cons, braceDepth_cons, show braceDepth ['{'] = 1 from rfl] at balanced
  omega

/-- Where the search ends, the braces balance for the first time. -/
theorem Closes.isLeast (closes : Closes 0 cs inner rest) :
    IsLeast {index | ClosesAt ('{' :: cs) index} (inner.length + 1) := by
  obtain ⟨rfl, staysOpen, level⟩ := closes
  refine ⟨⟨by simp, ?_⟩, fun index balanced => ?_⟩
  · have seen : ('{' :: (inner ++ '}' :: rest)).take (inner.length + 1 + 1) =
        '{' :: (inner ++ ['}']) := by
      simp [List.take_append]
    rw [seen, braceDepth_cons, braceDepth_append]
    show 1 + (braceDepth inner + -1) = 0
    omega
  · by_contra before
    exact not_closesAt staysOpen (List.prefix_append _ _) (by omega) balanced

/-- The search finds the first closing brace at which the braces of the text balance. -/
theorem closingBrace?_eq_some_iff : closingBrace? 0 cs = some (inner, rest) ↔
    cs = inner ++ '}' :: rest ∧
      IsLeast {index | ClosesAt ('{' :: cs) index} (inner.length + 1) := by
  constructor
  · intro closed
    have closes := closes_of_closingBrace? closed
    exact ⟨closes.whole, closes.isLeast⟩
  · rintro ⟨whole, least⟩
    cases closed : closingBrace? 0 cs with
    | none =>
        have inside : inner.length + 1 ≤ cs.length := by simp [whole]
        have staysOpen := staysOpen_of_closingBrace? closed
        exact absurd least.1 (not_closesAt staysOpen List.prefix_rfl inside)
    | some found =>
        obtain ⟨inner', rest'⟩ := found
        have closes := closes_of_closingBrace? closed
        have sameLength : inner'.length = inner.length :=
          Nat.succ_injective (closes.isLeast.unique least)
        obtain ⟨rfl, sameRest⟩ := List.append_inj (closes.whole.symm.trans whole) sameLength
        rw [(List.cons.inj sameRest).2]

/-- The search finds nothing if there is no closing brace at which the braces of the text
balance. -/
theorem closingBrace?_eq_none_iff :
    closingBrace? 0 cs = none ↔ ∀ index, ¬ ClosesAt ('{' :: cs) index := by
  constructor
  · intro unclosed index balanced
    have inside : index ≤ cs.length := by
      have := (List.getElem?_eq_some_iff.1 balanced.1).1
      simpa using Nat.le_of_lt_succ this
    exact not_closesAt (staysOpen_of_closingBrace? unclosed) List.prefix_rfl inside balanced
  · intro never
    cases closed : closingBrace? 0 cs with
    | none => rfl
    | some found => exact absurd (closes_of_closingBrace? closed).isLeast.1 (never _)

/-- The part of a text that the search looks at, from the brace to be closed up to the one that
closes it. -/
def searched (cs : List Char) : List Char :=
  match closingBrace? 0 cs with
  | some (inner, _) => '{' :: (inner ++ ['}'])
  | none => '{' :: cs

/-- At no place that the search comes to, more braces have been closed than opened. -/
theorem staysOpen_searched (cs : List Char) : StaysOpen 0 (searched cs) := by
  have opens : ((1 : Nat) : Int) = (0 : Nat) + braceDepth ['{'] := rfl
  unfold searched
  split
  · rename_i inner rest closed
    obtain ⟨-, staysOpen, level⟩ := closes_of_closingBrace? closed
    refine .cons opens fun seen first => ?_
    rcases List.prefix_concat_iff.1 first with rfl | inside
    · rw [braceDepth_append]
      show 0 ≤ 1 + (braceDepth inner + -1)
      omega
    · have notBelow := staysOpen seen inside
      omega
  · rename_i unclosed
    refine .cons opens fun seen first => ?_
    have notBelow := staysOpen_of_closingBrace? unclosed seen first
    omega

end

end RequestRouting

import RequestRouting.Condition.Document
import RequestRouting.Proofs.Text.Cut

/-!
# Conditions read back from their written form

An expression has one of four forms (`NameValue.Form`), and reading finds the one that it has. The
written form of what was read has the same form again, unless it says that a name which ends with
`!` has a value: `!` and `=` then stand side by side, and are read as `!=`
(`Conditions.reading_back_iff`).
-/

namespace RequestRouting

open Text

namespace NameValue

/-! ## The forms of an expression -/

/-- The condition that an expression stands for, by the form that the expression has. -/
inductive Form (cs : List Char) : NameValue → Prop where
  | unequal {name value} (whole : cs = name ++ '!' :: '=' :: value)
    (first : ¬ ['!', '='] <:+: name) :
    Form cs ⟨String.ofList (trim name), some (String.ofList (trim value)), true⟩
  | equal {name value} (whole : cs = name ++ '=' :: value) (noUnequal : ¬ ['!', '='] <:+: cs)
    (first : '=' ∉ name) :
    Form cs ⟨String.ofList (trim name), some (String.ofList (trim value)), false⟩
  | absent {name} (noEqual : '=' ∉ cs) (front : trim cs = '!' :: name) :
    Form cs ⟨String.ofList (trim name), none, true⟩
  | present (noEqual : '=' ∉ cs) (front : (trim cs).head? ≠ some '!') :
    Form cs ⟨String.ofList (trim cs), none, false⟩

theorem cut?_equal_eq_none_iff {cs : List Char} : cut? ['='] cs = none ↔ '=' ∉ cs := by
  rw [cut?_eq_none_iff (by simp), List.singleton_infix_iff]

theorem cut?_unequal_eq_none {cs : List Char} (noEqual : '=' ∉ cs) : cut? ['!', '='] cs = none :=
  (cut?_eq_none_iff (by simp)).2 fun inside => noEqual (inside.subset (by simp))

/-- An expression is cut at its first `!=`. -/
theorem cut?_unequal {name : List Char} (first : ¬ ['!', '='] <:+: name) (value : List Char) :
    cut? ['!', '='] (name ++ '!' :: '=' :: value) = some (name, value) := by
  have absent : ¬ ['!', '='] <:+: name ++ ['!'] := by
    rw [List.infix_concat_iff, not_or]
    refine ⟨fun ⟨front, whole⟩ => ?_, first⟩
    have last := congrArg List.getLast? whole
    simp at last
  have cut := cut?_append (by simp) absent value
  rwa [List.append_assoc] at cut

/-- Reading finds the form of an expression. -/
theorem form_parse (s : String) : Form s.toList (parse s) := by
  unfold parse
  dsimp only
  split
  · rename_i name value cut
    obtain ⟨whole, first⟩ := of_cut? (by simp) cut
    exact .unequal (by simpa using whole) first
  · rename_i noUnequal
    split
    · rename_i name value cut
      obtain ⟨whole, first⟩ := of_cut? (by simp) cut
      rw [List.singleton_infix_iff] at first
      exact .equal (by simpa using whole) ((cut?_eq_none_iff (by simp)).1 noUnequal) first
    · rename_i noEqual
      rw [cut?_equal_eq_none_iff] at noEqual
      split
      · rename_i name front
        exact .absent noEqual front
      · rename_i other
        refine .present noEqual fun front => ?_
        obtain ⟨name, whole⟩ := List.head?_eq_some_iff.1 front
        exact other name whole

/-- An expression is read as the condition that its form stands for. -/
theorem parse_of_form {s : String} {condition : NameValue} (form : Form s.toList condition) :
    parse s = condition := by
  unfold parse
  cases form with
  | @unequal name value whole first =>
      simp [whole, cut?_unequal first]
  | @equal name value whole noUnequal first =>
      have none : cut? ['!', '='] s.toList = none := (cut?_eq_none_iff (by simp)).2 noUnequal
      have cut : cut? ['='] s.toList = some (name, value) := by rw [whole, cut?_singleton first]
      simp [none, cut]
  | absent noEqual front =>
      simp [cut?_unequal_eq_none noEqual, cut?_equal_eq_none_iff.2 noEqual, front]
  | present noEqual front =>
      simp only [cut?_unequal_eq_none noEqual, cut?_equal_eq_none_iff.2 noEqual]
      split
      · rename_i same
        simp [same] at front
      · rfl

/-! ## The written form -/

/-- Whether the written form of a condition has `!` and `=` side by side though it is not negated:
it compares the value with a name that ends with `!`. -/
def LooksNegated (condition : NameValue) : Prop :=
  condition.value.isSome = true ∧ condition.negated = false ∧
    condition.name.toList.getLast? = some '!'

instance (condition : NameValue) : Decidable condition.LooksNegated :=
  inferInstanceAs (Decidable (_ ∧ _ ∧ _))

/-- No `!=` arises between two texts without one, unless the first ends with `!`. -/
theorem not_isInfix_unequal {name value : List Char} (noName : ¬ ['!', '='] <:+: name)
    (noValue : ¬ ['!', '='] <:+: value) (last : name.getLast? ≠ some '!') :
    ¬ ['!', '='] <:+: name ++ '=' :: value := by
  induction name with
  | nil =>
      rw [List.nil_append, List.infix_cons_iff, not_or]
      exact ⟨by simp, noValue⟩
  | cons c name ih =>
      rw [List.cons_append, List.infix_cons_iff, not_or]
      rw [List.infix_cons_iff, not_or] at noName
      refine ⟨fun first => ?_, ih noName.2 fun ends => last ?_⟩
      · cases name with
        | nil => exact last (by simpa [eq_comm] using first)
        | cons d name => exact noName.1 (by simpa using first)
      · cases name with
        | nil => simp at ends
        | cons d name => rwa [List.getLast?_cons_cons]

section

variable {name value : List Char}

theorem parse_text_unequal (name_trimmed : IsTrimmed name) (value_trimmed : IsTrimmed value)
    (first : ¬ ['!', '='] <:+: name) :
    parse (text ⟨String.ofList name, some (String.ofList value), true⟩) =
      ⟨String.ofList name, some (String.ofList value), true⟩ := by
  have written : (text ⟨String.ofList name, some (String.ofList value), true⟩).toList =
      name ++ '!' :: '=' :: value := by simp [text]
  rw [parse_of_form (.unequal written first), trim_eq_self name_trimmed,
    trim_eq_self value_trimmed]

/-- If the name ends with `!`, this mark moves into the operator. -/
theorem parse_text_equal_iff (name_trimmed : IsTrimmed name) (value_trimmed : IsTrimmed value)
    (noEqual : '=' ∉ name) (noUnequal : ¬ ['!', '='] <:+: value) :
    parse (text ⟨String.ofList name, some (String.ofList value), false⟩) =
      ⟨String.ofList name, some (String.ofList value), false⟩ ↔ name.getLast? ≠ some '!' := by
  have written : (text ⟨String.ofList name, some (String.ofList value), false⟩).toList =
      name ++ '=' :: value := by simp [text]
  have noName : ¬ ['!', '='] <:+: name := fun inside => noEqual (inside.subset (by simp))
  by_cases last : name.getLast? = some '!'
  · obtain ⟨front, rfl⟩ := List.getLast?_eq_some_iff.1 last
    rw [List.append_assoc, List.singleton_append] at written
    have noFront : ¬ ['!', '='] <:+: front := fun inside =>
      noName (inside.trans (List.prefix_append ..).isInfix)
    rw [parse_of_form (.unequal written noFront)]
    simp
  · have again := not_isInfix_unequal noName noUnequal last
    rw [parse_of_form (.equal written (written ▸ again) noEqual), trim_eq_self name_trimmed,
      trim_eq_self value_trimmed]
    exact iff_of_true rfl last

theorem parse_text_absent (name_trimmed : IsTrimmed name) (noEqual : '=' ∉ name) :
    parse (text ⟨String.ofList name, none, true⟩) = ⟨String.ofList name, none, true⟩ := by
  have written : (text ⟨String.ofList name, none, true⟩).toList = '!' :: name := by simp [text]
  have whole : IsTrimmed ('!' :: name) := by
    refine ⟨by simp; decide, fun c last => ?_⟩
    cases name with
    | nil =>
        obtain rfl : '!' = c := by simpa using last
        decide
    | cons d name => exact name_trimmed.2 c (by rwa [List.getLast?_cons_cons] at last)
  have front : trim (text ⟨String.ofList name, none, true⟩).toList = '!' :: name := by
    rw [written, trim_eq_self whole]
  rw [parse_of_form (.absent (by simpa [written] using noEqual) front), trim_eq_self name_trimmed]

theorem parse_text_present (name_trimmed : IsTrimmed name) (noEqual : '=' ∉ name)
    (front : name.head? ≠ some '!') :
    parse (text ⟨String.ofList name, none, false⟩) = ⟨String.ofList name, none, false⟩ := by
  have written : (text ⟨String.ofList name, none, false⟩).toList = name := by simp [text]
  have same : trim (text ⟨String.ofList name, none, false⟩).toList = name :=
    written.symm ▸ trim_eq_self name_trimmed
  rw [parse_of_form (.present (by rwa [written]) (by rwa [same])), same]

end

/-- What was read is read again from its written form, unless this looks negated. -/
theorem parse_text_parse_iff (s : String) :
    parse (parse s).text = parse s ↔ ¬ (parse s).LooksNegated := by
  generalize read : parse s = condition
  have form : Form s.toList condition := read ▸ form_parse s
  cases form with
  | @unequal name value whole first =>
      have noUnequal : ¬ ['!', '='] <:+: trim name := fun inside =>
        first (inside.trans (trim_isInfix name))
      refine iff_of_true (parse_text_unequal ?_ ?_ noUnequal) (by simp [LooksNegated])
      · exact isTrimmed_trim name
      · exact isTrimmed_trim value
  | @equal name value whole noUnequal first =>
      have noEqual : '=' ∉ trim name := fun inside => first ((trim_isInfix name).subset inside)
      have noValue : ¬ ['!', '='] <:+: trim value := fun inside =>
        noUnequal ((inside.trans (trim_isInfix value)).trans ⟨name ++ ['='], [], by simp [whole]⟩)
      rw [parse_text_equal_iff (isTrimmed_trim name) (isTrimmed_trim value) noEqual noValue]
      simp [LooksNegated]
  | @absent name noEqual front =>
      have inside : trim name ⊆ s.toList := fun c member => (trim_isInfix s.toList).subset
        (front ▸ List.mem_cons_of_mem _ ((trim_isInfix name).subset member))
      exact iff_of_true (parse_text_absent (isTrimmed_trim name) fun member =>
        noEqual (inside member)) (by simp [LooksNegated])
  | present noEqual front =>
      have noEqual' : '=' ∉ trim s.toList := fun member =>
        noEqual ((trim_isInfix s.toList).subset member)
      exact iff_of_true (parse_text_present (isTrimmed_trim s.toList) noEqual' front)
        (by simp [LooksNegated])

end NameValue

/-! ## Sets of conditions -/

namespace Conditions

theorem list?_textArray (texts : List String) :
    Json.list? Json.text? (textArray texts) = some texts := by
  show (texts.map fun text => Json.string (some text)).mapM Json.text? = some texts
  induction texts with
  | nil => rfl
  | cons text texts ih => rw [List.map_cons, List.mapM_cons, ih]; rfl

theorem map_eq_self_iff {α : Type} {f : α → α} {as : List α} :
    as.map f = as ↔ ∀ a ∈ as, f a = a := by
  simpa using List.map_eq_map_iff (l := as) (g := id)

/-- What is read of written conditions has the expressions read again, and nothing else changes. -/
theorem ofJson?_toJson (conditions : Conditions) :
    ofJson? conditions.toJson = some { conditions with
      params := conditions.params.map fun condition => NameValue.parse condition.text
      headers := conditions.headers.map fun condition => NameValue.parse condition.text } := by
  simp [ofJson?, toJson, Json.members?, ofMembers?, namedOnce, member?, list?_textArray, Json.bool?]

/-- An expression is read again from its written form if and only if this does not look negated, and
conditions with expressions that have been read are the same again, if they are written and read
back, if and only if none of their expressions looks negated when it is written. -/
theorem reading_back_iff (others : Conditions) (params headers : List String) :
    let conditions := { others with
      params := params.map NameValue.parse
      headers := headers.map NameValue.parse }
    (∀ s, NameValue.parse (NameValue.parse s).text = NameValue.parse s ↔
      ¬ (NameValue.parse s).LooksNegated) ∧
    ∃ again, ofJson? conditions.toJson = some again ∧
      (again = conditions ↔
        ∀ condition ∈ conditions.params ++ conditions.headers, ¬ condition.LooksNegated) := by
  intro conditions
  refine ⟨NameValue.parse_text_parse_iff, _, ofJson?_toJson conditions, ?_⟩
  have same : ∀ condition ∈ conditions.params ++ conditions.headers,
      (NameValue.parse condition.text = condition ↔ ¬ condition.LooksNegated) := by
    intro condition member
    rw [← List.map_append] at member
    obtain ⟨s, -, rfl⟩ := List.mem_map.1 member
    exact NameValue.parse_text_parse_iff s
  rw [← forall₂_congr same]
  obtain ⟨consumes, produces, params, headers, crossOrigin⟩ := conditions
  simp [map_eq_self_iff, or_imp, forall_and]

/-- A blank between `!` and `=` is lost, so that the name `a!` with a value becomes the name `a`
without it, and a request that was accepted is not accepted any more. -/
theorem reading_back_of_blank_before_equal :
    NameValue.parse (NameValue.parse "a! =b").text ≠ NameValue.parse "a! =b" ∧
      ∃ again, ofJson? (toJson { params := [NameValue.parse "a! =b"] }) = some again ∧
        ∃ request, (matching? { params := [NameValue.parse "a! =b"] } request).isSome = true ∧
          again.matching? request = none := by
  refine ⟨by decide +kernel, _, ofJson?_toJson _,
    ⟨.get, "/", .ofList [("a!", "b"), ("a", "b")], .empty⟩, ?_, ?_⟩
  · decide +kernel
  · decide +kernel

end Conditions
end RequestRouting

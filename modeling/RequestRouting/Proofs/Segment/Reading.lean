import Mathlib.Data.List.Basic
import RequestRouting.Pattern.Token
import RequestRouting.Segment.Basic
import RequestRouting.Segment.Indexable

/-!
# Two readings of a token

What stands between two slashes of a pattern is read twice: as a segment of the pattern, for its
regular expression, and as a canonical segment, for the pattern tree. For a token that a tree can
index both readings say the same (`corresponds_of_isIndexableToken`).
-/

namespace RequestRouting

/-- Whether a token is read as a segment of a pattern and a canonical segment that ask for the
same texts. -/
inductive Corresponds (token : List Char) : PatternSegment → Segment → Prop
  | literal : Corresponds token (.tokens (if token = [] then [] else [.literal token]))
      (.literal token)
  | parameter {name : List Char} : token = '{' :: name ++ ['}'] →
      Corresponds token (.tokens [.parameter name none]) .parameter
  | wildcard : token = ['*'] → Corresponds token (.tokens [.star]) .wildcard
  | any : token = ['*', '*'] → Corresponds token .any .doubleWildcard
  | captureRest {name : List Char} : token = '{' :: '*' :: name ++ ['}'] →
      Corresponds token (.captureRest name) .doubleWildcard

/-! ## Braces -/

theorem closingBrace?_eq_none {depth : Nat} {cs : List Char} (unclosed : '}' ∉ cs) :
    closingBrace? depth cs = none := by
  fun_induction closingBrace? depth cs with
  | case1 => rfl
  | case2 | case3 => exact absurd List.mem_cons_self unclosed
  | case4 _ _ ih | case5 _ _ _ _ _ _ ih =>
    rw [ih (List.not_mem_of_not_mem_cons unclosed)]
    rfl

theorem closingBrace?_append {name rest : List Char} (noOpening : '{' ∉ name)
    (noClosing : '}' ∉ name) : closingBrace? 0 (name ++ '}' :: rest) = some (name, rest) := by
  induction name with
  | nil => rfl
  | cons c name ih =>
      have later := ih (List.not_mem_of_not_mem_cons noOpening)
        (List.not_mem_of_not_mem_cons noClosing)
      have notOpening : c ≠ '{' := (List.ne_of_not_mem_cons noOpening).symm
      have notClosing : c ≠ '}' := (List.ne_of_not_mem_cons noClosing).symm
      rw [List.cons_append, closingBrace?]
      · rw [later]
        rfl
      · exact notOpening
      · exact fun _ => notClosing
      · exact fun _ _ => notClosing

theorem eq_of_braced? {token inner : List Char} (braced : Text.braced? token = some inner) :
    token = '{' :: inner ++ ['}'] := by
  unfold Text.braced? at braced
  split at braced
  · rename_i rest
    split at braced
    · rename_i last
      obtain rfl := Option.some.inj braced
      have some : rest ≠ [] := by
        rintro rfl
        simp at last
      rw [List.getLast?_eq_some_getLast some, Option.some.injEq] at last
      rw [List.cons_append, ← last, List.dropLast_concat_getLast some]
    · simp at braced
  · simp at braced

/-! ## Literal text -/

/-- Text is literal if it has no wildcards and no brace that is closed. -/
theorem read_of_literal {token : List Char} (noStar : '*' ∉ token) (noMark : '?' ∉ token)
    (unclosed : '}' ∉ token.dropWhile (· != '{')) :
    PatternToken.read token = if token = [] then [] else [.literal token] := by
  induction token with
  | nil => simp [PatternToken.read]
  | cons c token ih =>
      have noStar' : '*' ∉ token := List.not_mem_of_not_mem_cons noStar
      have noMark' : '?' ∉ token := List.not_mem_of_not_mem_cons noMark
      have joined : ∀ c, PatternToken.consLiteral c (if token = [] then [] else [.literal token]) =
          [.literal (c :: token)] := by
        intro c
        by_cases none : token = []
        · simp [none, PatternToken.consLiteral]
        · simp [none, PatternToken.consLiteral]
      rw [if_neg (List.cons_ne_nil c token)]
      by_cases opening : c = '{'
      · subst opening
        have unclosed' : '}' ∉ token := by simpa using unclosed
        have later := ih noStar' noMark' fun member =>
          unclosed' ((List.dropWhile_sublist _).subset member)
        rw [PatternToken.read]
        split
        · rename_i closed
          simp [closingBrace?_eq_none unclosed'] at closed
        · rw [later, joined]
      · have later := ih noStar' noMark' (by simpa [opening] using unclosed)
        have notStar : c ≠ '*' := (List.ne_of_not_mem_cons noStar).symm
        have notMark : c ≠ '?' := (List.ne_of_not_mem_cons noMark).symm
        rw [PatternToken.read]
        · rw [later, joined]
        · exact opening
        · exact notStar
        · exact notMark

/-! ## Plain names -/

theorem not_mem_of_isNameChar {name : List Char} (plain : name.all isNameChar = true) {c : Char}
    (special : isNameChar c = false) : c ∉ name := by
  intro member
  have isName := List.all_eq_true.1 plain c member
  rw [special] at isName
  exact Bool.false_ne_true isName

theorem cut?_colon_eq_none {cs : List Char} (noColon : ':' ∉ cs) : Text.cut? [':'] cs = none := by
  induction cs with
  | nil => rfl
  | cons c cs ih =>
      have later := ih (List.not_mem_of_not_mem_cons noColon)
      have here : ':' ≠ c := List.ne_of_not_mem_cons noColon
      simp [Text.cut?, later, here]

/-- A plain name between braces is a variable. -/
theorem read_of_name {name : List Char} (plain : name.all isNameChar = true) :
    PatternToken.read ('{' :: name ++ ['}']) = [.parameter name none] := by
  have noOpening : '{' ∉ name := not_mem_of_isNameChar plain (by decide)
  have noClosing : '}' ∉ name := not_mem_of_isNameChar plain (by decide)
  have noColon : ':' ∉ name := not_mem_of_isNameChar plain (by decide)
  have closed : closingBrace? 0 (name ++ ['}']) = some (name, []) :=
    closingBrace?_append noOpening noClosing
  rw [List.cons_append, PatternToken.read]
  split
  · rename_i inner rest found
    obtain ⟨rfl, rfl⟩ := Prod.mk.inj (Option.some.inj (closed.symm.trans found))
    rw [PatternToken.ofBraces, cut?_colon_eq_none noColon, PatternToken.read]
  · rename_i unclosed
    simp [closed] at unclosed

/-- A plain name behind a star, between braces, is the name of a rest. -/
theorem restName?_of_name {name : List Char} (some_name : name ≠ [])
    (plain : name.all isNameChar = true) :
    PatternSegment.restName? ('{' :: '*' :: name ++ ['}']) = some name := by
  have noOpening : '{' ∉ name := not_mem_of_isNameChar plain (by decide)
  have noClosing : '}' ∉ name := not_mem_of_isNameChar plain (by decide)
  simp [PatternSegment.restName?, some_name, noOpening, noClosing]

theorem restName?_of_head {name : List Char} (noStar : name.head? ≠ some '*') :
    PatternSegment.restName? ('{' :: name ++ ['}']) = none := by
  unfold PatternSegment.restName?
  split
  · rename_i cs same
    cases name with
    | nil => simp at same
    | cons c name =>
        obtain rfl : c = '*' := by simpa using (List.cons.inj (List.cons.inj same).2).1
        exact absurd rfl noStar
  · rfl

/-! ## Both readings -/

/-- What stands between braces is a variable, or the name of a rest behind a star. -/
theorem corresponds_of_braced {token inner : List Char} (braced : Text.braced? token = some inner)
    (plain : isPlainName inner = true) :
    Corresponds token (PatternSegment.read token) (Segment.ofToken token) := by
  have shape := eq_of_braced? braced
  have notStars : token ≠ ['*'] ∧ token ≠ ['*', '*'] := by simp [shape]
  unfold PatternSegment.read Segment.ofToken
  rw [if_neg notStars.2, if_neg notStars.1, if_neg notStars.2, braced]
  unfold isPlainName at plain
  split at plain
  · rename_i name
    simp only [Bool.and_eq_true, Bool.not_eq_true', List.isEmpty_eq_false_iff] at plain
    have rest : PatternSegment.restName? token = some name :=
      shape ▸ restName?_of_name plain.1 plain.2
    rw [rest]
    exact .captureRest shape
  · rename_i notStar
    simp only [Bool.and_eq_true, Bool.not_eq_true', List.isEmpty_eq_false_iff] at plain
    have head : inner.head? ≠ some '*' := by
      intro same
      obtain ⟨name, rfl⟩ := List.head?_eq_some_iff.1 same
      exact notStar name rfl
    have rest : PatternSegment.restName? token = none := shape ▸ restName?_of_head head
    have read : PatternToken.read token = [.parameter inner none] :=
      shape ▸ read_of_name plain.2
    rw [rest, read]
    simp only [head, ↓reduceIte]
    exact .parameter shape

/-- Without stars and closed braces a token is literal. -/
theorem corresponds_of_unbraced {token : List Char} (unbraced : Text.braced? token = none)
    (noStar : '*' ∉ token) (noMark : '?' ∉ token)
    (unclosed : '}' ∉ token.dropWhile (· != '{')) :
    Corresponds token (PatternSegment.read token) (Segment.ofToken token) := by
  have notStars : token ≠ ['*'] ∧ token ≠ ['*', '*'] := by
    constructor
    · rintro rfl
      exact noStar List.mem_cons_self
    · rintro rfl
      exact noStar List.mem_cons_self
  have rest : PatternSegment.restName? token = none := by
    unfold PatternSegment.restName?
    split
    · simp at noStar
    · rfl
  unfold PatternSegment.read Segment.ofToken
  rw [if_neg notStars.2, if_neg notStars.1, if_neg notStars.2, unbraced, rest,
    read_of_literal noStar noMark unclosed]
  exact .literal

/-- A token that a tree can index is read alike both times. -/
theorem corresponds_of_isIndexableToken {token : List Char}
    (indexable : isIndexableToken token = true) (noMark : '?' ∉ token) :
    Corresponds token (PatternSegment.read token) (Segment.ofToken token) := by
  by_cases star : token = ['*']
  · subst star
    have read : PatternSegment.read ['*'] = .tokens [.star] := by
      simp [PatternSegment.read, PatternSegment.restName?, PatternToken.read]
    rw [read]
    exact .wildcard rfl
  by_cases stars : token = ['*', '*']
  · subst stars
    exact .any rfl
  unfold isIndexableToken at indexable
  rw [if_neg (by simp [star, stars])] at indexable
  cases braced : Text.braced? token with
  | some inner => exact corresponds_of_braced braced (by simpa only [braced] using indexable)
  | none =>
      simp only [braced, Bool.and_eq_true, Bool.not_eq_true', List.contains_eq_mem,
        decide_eq_false_iff_not] at indexable
      exact corresponds_of_unbraced braced indexable.2 noMark indexable.1

end RequestRouting

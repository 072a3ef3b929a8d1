import Mathlib.Data.List.Chain
import RequestRouting.Proofs.Pattern.Braces
import RequestRouting.Proofs.Text.Cut

/-!
# Writing what was read

What stands between two slashes of a pattern is read step by step (`PatternToken.step`). Each step
takes at least one character and makes it a token, from which it can be written again
(`PatternToken.written_step`), so that nothing is lost when a segment is read
(`PatternSegment.written_read`). Literal tokens are joined on the way, and are neither empty nor
adjacent (`PatternToken.separate_read`).
-/

namespace RequestRouting

namespace PatternToken

/-- A token as it stands in a pattern. -/
def written : PatternToken → List Char
  | literal text => text
  | parameter name none => '{' :: (name ++ ['}'])
  | parameter name (some constraint) => '{' :: (name ++ ':' :: constraint ++ ['}'])
  | star => ['*']
  | anyChar => ['?']

/-- Tokens as they stand in a pattern. -/
def allWritten (tokens : List PatternToken) : List Char :=
  tokens.flatMap written

/-- Whether a token is literal text. -/
def isLiteral : PatternToken → Bool
  | literal _ => true
  | _ => false

/-- Whether no literal token is empty and no two of them are adjacent. -/
structure Separate (tokens : List PatternToken) : Prop where
  notEmpty : ∀ text, literal text ∈ tokens → text ≠ []
  apart : tokens.IsChain fun token next => ¬ (token.isLiteral = true ∧ next.isLiteral = true)

/-! ## Steps -/

/-- One step of reading a segment: the token at its beginning, where literal text is read one
character at a time, and what is left behind it. -/
def step (c : Char) (cs : List Char) : PatternToken × List Char :=
  match c with
  | '{' =>
    match closingBrace? 0 cs with
    | some (inner, rest) => (ofBraces inner, rest)
    | none => (literal ['{'], cs)
  | '*' => (star, cs)
  | '?' => (anyChar, cs)
  | c => (literal [c], cs)

/-- Adds a token in front of others. Literal text is joined with such text behind it. -/
def attach : PatternToken → List PatternToken → List PatternToken
  | literal text, literal more :: tokens => literal (text ++ more) :: tokens
  | token, tokens => token :: tokens

section

variable {token : PatternToken} {tokens : List PatternToken} {c : Char} {cs : List Char}

theorem written_ofBraces (inner : List Char) :
    (ofBraces inner).written = '{' :: (inner ++ ['}']) := by
  unfold ofBraces
  split
  · rename_i name constraint cut
    obtain ⟨rfl, -⟩ := Text.of_cut? (by simp) cut
    simp [written]
  · rfl

theorem isLiteral_ofBraces (inner : List Char) : (ofBraces inner).isLiteral = false := by
  unfold ofBraces
  split <;> rfl

theorem attach_of_other (other : token.isLiteral = false) (tokens : List PatternToken) :
    attach token tokens = token :: tokens := by
  cases token with
  | literal text => simp [isLiteral] at other
  | parameter | star | anyChar => rfl

theorem consLiteral_eq_attach (c : Char) (tokens : List PatternToken) :
    consLiteral c tokens = attach (literal [c]) tokens := by
  unfold consLiteral
  split
  · rfl
  · rename_i other
    rw [attach]
    exact fun text more tokens _ same => other more tokens same

/-- A segment is read by taking one step and reading what is left. -/
theorem read_cons (c : Char) (cs : List Char) :
    read (c :: cs) = attach (step c cs).1 (read (step c cs).2) := by
  unfold step
  split
  · rw [read]
    split
    · rename_i inner rest closed
      simp only [closed]
      rw [attach_of_other (isLiteral_ofBraces inner)]
    · rename_i unclosed
      simp only [unclosed]
      exact consLiteral_eq_attach '{' (read cs)
  · rw [read]
    rfl
  · rw [read]
    rfl
  · rename_i notBrace notStar notMark
    rw [read, consLiteral_eq_attach]
    · exact notBrace
    · exact notStar
    · exact notMark

/-- Each step takes what it can be written again from, which is not empty. -/
theorem written_step (c : Char) (cs : List Char) :
    (step c cs).1.written ++ (step c cs).2 = c :: cs ∧ (step c cs).1.written ≠ [] := by
  unfold step
  split
  · split
    · rename_i inner rest closed
      rw [written_ofBraces, (closes_of_closingBrace? closed).whole]
      simp
    · exact ⟨rfl, List.cons_ne_nil _ _⟩
  · exact ⟨rfl, List.cons_ne_nil _ _⟩
  · exact ⟨rfl, List.cons_ne_nil _ _⟩
  · exact ⟨rfl, List.cons_ne_nil _ _⟩

/-- What is left is shorter by at least one character. -/
theorem length_step (c : Char) (cs : List Char) : (step c cs).2.length < (c :: cs).length := by
  obtain ⟨whole, some⟩ := written_step c cs
  have taken := List.length_pos_iff.2 some
  rw [← whole, List.length_append]
  omega

/-- What holds of the empty text, and of a text if it holds of what one step leaves of it, holds of
every text. -/
theorem step_induction {motive : List Char → Prop} (nil : motive [])
    (cons : ∀ c cs, motive (step c cs).2 → motive (c :: cs)) (cs : List Char) : motive cs :=
  match cs with
  | [] => nil
  | c :: cs => cons c cs (step_induction nil cons (step c cs).2)
termination_by cs.length
decreasing_by exact length_step c cs

/-! ## Runs -/

theorem allWritten_attach (token : PatternToken) (tokens : List PatternToken) :
    allWritten (attach token tokens) = token.written ++ allWritten tokens := by
  unfold attach
  split
  · simp [allWritten, written]
  · rfl

/-- Nothing is lost when tokens are read. -/
theorem allWritten_read (cs : List Char) : allWritten (read cs) = cs := by
  induction cs using step_induction with
  | nil => simp [read, allWritten]
  | cons c cs ih => rw [read_cons, allWritten_attach, ih, (written_step c cs).1]

/-- A token in front of separate tokens does not bring two literal ones together, as these are
joined. -/
theorem Separate.attach (separate : Separate tokens) (some : token.written ≠ []) :
    Separate (attach token tokens) := by
  obtain ⟨notEmpty, apart⟩ := separate
  unfold PatternToken.attach
  split
  · rename_i text more others
    constructor
    · intro other member
      rcases List.mem_cons.1 member with same | later
      · obtain rfl := literal.inj same
        exact List.append_ne_nil_of_left_ne_nil some more
      · exact notEmpty other (List.mem_cons_of_mem _ later)
    · exact apart.cons_of_imp fun next alone both => alone ⟨rfl, both.2⟩
  · rename_i notBoth
    constructor
    · intro other member
      rcases List.mem_cons.1 member with same | later
      · subst same
        exact some
      · exact notEmpty other later
    · refine List.isChain_cons.2 ⟨fun next first both => ?_, apart⟩
      obtain ⟨others, rfl⟩ := List.head?_eq_some_iff.1 first
      cases token with
      | literal text =>
          cases next with
          | literal more => exact notBoth text more others rfl rfl
          | parameter | star | anyChar => simp [isLiteral] at both
      | parameter | star | anyChar => simp [isLiteral] at both

theorem separate_read (cs : List Char) : Separate (read cs) := by
  induction cs using step_induction with
  | nil => exact ⟨by simp [read], by simp [read]⟩
  | cons c cs ih =>
      rw [read_cons]
      exact ih.attach (written_step c cs).2

end

end PatternToken

namespace PatternSegment

/-- What stands between two slashes of a pattern for a segment. -/
def written : PatternSegment → List Char
  | tokens parts => PatternToken.allWritten parts
  | any => ['*', '*']
  | captureRest name => '{' :: '*' :: (name ++ ['}'])

theorem eq_of_restName? {part name : List Char} (found : restName? part = some name) :
    part = '{' :: '*' :: (name ++ ['}']) := by
  unfold restName? at found
  split at found
  · rename_i cs
    split at found
    · rename_i last
      dsimp only at found
      split at found
      · simp at found
      · obtain rfl := Option.some.inj found
        have some : cs ≠ [] := fun none => by simp [none] at last
        rw [List.getLast?_eq_some_getLast some, Option.some.injEq] at last
        rw [← last, List.dropLast_concat_getLast some]
    · simp at found
  · simp at found

/-- What is read can be written again. -/
theorem written_read (part : List Char) : (read part).written = part := by
  unfold read
  split
  · rename_i stars
    rw [stars]
    rfl
  · split
    · rename_i name found
      exact (eq_of_restName? found).symm
    · exact PatternToken.allWritten_read part

theorem separate_of_read {part : List Char} {parts : List PatternToken}
    (isRead : read part = .tokens parts) : PatternToken.Separate parts := by
  unfold read at isRead
  split at isRead
  · simp at isRead
  · split at isRead
    · simp at isRead
    · obtain rfl := PatternSegment.tokens.inj isRead
      exact PatternToken.separate_read part

/-- Nothing is lost when a segment is read. It can be written again from its tokens, of which the
literal ones are not empty and never adjacent; each step takes at least one character; and the brace
that closes a variable is the first one at which the braces balance, up to which they are never
closed more often than opened. -/
theorem lossless_read :
    (∀ part, (read part).written = part ∧
      ∀ parts, read part = .tokens parts → PatternToken.Separate parts) ∧
    (∀ c cs, ∃ token rest, PatternToken.step c cs = (token, rest) ∧
      PatternToken.read (c :: cs) = PatternToken.attach token (PatternToken.read rest) ∧
        token.written ++ rest = c :: cs ∧ token.written ≠ [] ∧ rest.length < (c :: cs).length) ∧
    ∀ cs, (∀ seen, seen <+: searched cs → 0 ≤ braceDepth seen) ∧
      (∀ inner rest, closingBrace? 0 cs = some (inner, rest) ↔ cs = inner ++ '}' :: rest ∧
        IsLeast {index | ClosesAt ('{' :: cs) index} (inner.length + 1)) ∧
      (closingBrace? 0 cs = none ↔ ∀ index, ¬ ClosesAt ('{' :: cs) index) := by
  refine ⟨fun part => ⟨written_read part, fun parts => separate_of_read⟩, fun c cs => ?_,
    fun cs => ⟨fun seen first => ?_, fun inner rest => closingBrace?_eq_some_iff,
      closingBrace?_eq_none_iff⟩⟩
  · obtain ⟨whole, some⟩ := PatternToken.written_step c cs
    exact ⟨_, _, rfl, PatternToken.read_cons c cs, whole, some, PatternToken.length_step c cs⟩
  · have notBelow := staysOpen_searched cs seen first
    omega

end PatternSegment

end RequestRouting

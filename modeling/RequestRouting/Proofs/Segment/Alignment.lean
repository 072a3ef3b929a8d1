import Mathlib.Data.List.DropRight
import RequestRouting.Proofs.Tree.Structure
import RequestRouting.Tree.Search

/-!
# Segments of a pattern along those of a request

A multi-segment wildcard takes any number of the segments of a request, and any other segment
takes one (`Aligned`). The search of a tree looks for such an alignment, but where a request ends
it takes at most one multi-segment wildcard to be left (`Reaches`). It therefore finds an
alignment in which one of the wildcards at the end of a pattern takes something, or none is left
over but one (`reaches_iff`).
-/

namespace RequestRouting

/-- Whether a segment of a pattern stands for any number of segments. -/
def Segment.isOpen (segment : Segment) : Bool :=
  segment.style == .doubleWildcard

/-- Whether a segment of a pattern takes a segment of a request. -/
def Segment.Accepts (segment taken : Segment) : Prop :=
  match segment.style with
  | .literal => taken.text = segment.text
  | .parameter => taken.isRoot = false ∧ taken.text ≠ ""
  | .wildcard | .doubleWildcard => True

/-- Whether the segments of a pattern take those of a request in order, a multi-segment wildcard
any number of them, and every other segment one. -/
def Aligned : List Segment → List Segment → Prop
  | [], taken => taken = []
  | segment :: segments, taken =>
    if segment.isOpen then ∃ some rest, taken = some ++ rest ∧ Aligned segments rest
    else ∃ first rest, taken = first :: rest ∧ segment.Accepts first ∧ Aligned segments rest

/-! ## The way of a search -/

/-- Whether the search of a tree tries a segment of a pattern for one of a request. -/
def Segment.IsTriedFor (segment taken : Segment) : Prop :=
  ∃ style, style ≠ .doubleWildcard ∧ Node.probe? style taken = some segment.text

/-- Whether segments that are left over at the end of a request do not count. -/
def Ends (segments : List Segment) : Prop :=
  segments = [] ∨ ∃ segment, segments = [segment] ∧ segment.isOpen

/-- Whether the search of a tree comes along the segments of a pattern, as it takes those of a
request. -/
inductive Reaches : List Segment → List Segment → Prop
  | last {segment taken segments} : segment.IsTriedFor taken → Ends segments →
      Reaches (segment :: segments) [taken]
  | next {segment taken segments second others} : segment.IsTriedFor taken →
      Reaches segments (second :: others) →
      Reaches (segment :: segments) (taken :: second :: others)
  | all {segment segments first others} : segment.isOpen → Ends segments →
      Reaches (segment :: segments) (first :: others)
  | some {segment segments rest} (taken : List Segment) : segment.isOpen → Reaches segments rest →
      Reaches (segment :: segments) (taken ++ rest)

section

variable {segment taken : Segment} {segments path : List Segment}

theorem Reaches.ne_nil (reaches : Reaches segments path) : path ≠ [] := by
  induction reaches with
  | last | next | all => simp
  | some taken _ _ ih => exact fun none => ih (List.append_eq_nil_iff.1 none).2

/-- A segment that is no multi-segment wildcard is tried for the first segment of a request. -/
theorem Reaches.tried_of_closed (reaches : Reaches (segment :: segments) (taken :: path))
    (closed : segment.isOpen = false) : segment.IsTriedFor taken := by
  generalize whole : taken :: path = request at reaches
  cases reaches with
  | last tried | next tried =>
      obtain ⟨rfl, -⟩ := List.cons.inj whole
      exact tried
  | all opened | some _ opened =>
      rw [closed] at opened
      exact absurd opened Bool.false_ne_true

theorem accepts_of_isTriedFor (canonical : segment.IsCanonical)
    (tried : segment.IsTriedFor taken) : segment.Accepts taken := by
  obtain ⟨style, notOpen, probe⟩ := tried
  unfold Segment.Accepts
  cases style with
  | literal =>
      have text : taken.text = segment.text := Option.some.inj probe
      cases own : segment.style with
      | literal => exact text
      | parameter =>
          -- a request may spell the key of a variable, which is no root and not empty
          have key : segment.text = "\x7b\x7d" := (canonical .parameter _ rfl).2 own
          rw [Segment.isRoot, text, key]
          exact ⟨by decide, by decide⟩
      | wildcard | doubleWildcard => trivial
  | parameter =>
      simp only [Node.probe?, Option.ite_none_left_eq_some, Bool.or_eq_true, not_or,
        Bool.not_eq_true, Option.some.injEq] at probe
      rw [(canonical .parameter _ rfl).1 probe.2.symm]
      exact ⟨probe.1.1, by simpa using probe.1.2⟩
  | wildcard =>
      have key : segment.text = "*" := (Option.some.inj probe).symm
      rw [(canonical .wildcard _ rfl).1 key]
      trivial
  | doubleWildcard => exact absurd rfl notOpen

theorem isTriedFor_of_accepts (canonical : segment.IsCanonical) (closed : segment.isOpen = false)
    (accepts : segment.Accepts taken) : segment.IsTriedFor taken := by
  unfold Segment.Accepts at accepts
  cases own : segment.style with
  | literal =>
      rw [own] at accepts
      exact ⟨.literal, by decide, congrArg Option.some accepts⟩
  | parameter =>
      rw [own] at accepts
      refine ⟨.parameter, by decide, ?_⟩
      rw [(canonical .parameter _ rfl).2 own]
      simpa [Node.probe?, Segment.parameter] using accepts
  | wildcard =>
      refine ⟨.wildcard, by decide, ?_⟩
      rw [(canonical .wildcard _ rfl).2 own]
      rfl
  | doubleWildcard =>
      rw [Segment.isOpen, own] at closed
      exact absurd closed (by decide)

theorem aligned_cons_open (opened : segment.isOpen = true) :
    Aligned (segment :: segments) path ↔
      ∃ some rest, path = some ++ rest ∧ Aligned segments rest := by
  rw [Aligned, if_pos opened]

theorem aligned_cons_closed (closed : segment.isOpen = false) :
    Aligned (segment :: segments) path ↔
      ∃ first rest, path = first :: rest ∧ segment.Accepts first ∧ Aligned segments rest := by
  rw [Aligned, if_neg (by simp [closed])]

end

/-! ## Wildcards at the end -/

/-- The segments of a pattern before the multi-segment wildcards at its end. -/
def stem (segments : List Segment) : List Segment :=
  segments.rdropWhile Segment.isOpen

/-- The multi-segment wildcards at the end of a pattern. -/
def openings (segments : List Segment) : List Segment :=
  segments.rtakeWhile Segment.isOpen

/-- Whether the last of some segments, if there is one, is no multi-segment wildcard. -/
def EndsClosed (segments : List Segment) : Prop :=
  ∀ segment, segments.getLast? = some segment → segment.isOpen = false

section

variable {segment : Segment} {front wildcards path taken : List Segment}

theorem stem_append_openings (segments : List Segment) :
    stem segments ++ openings segments = segments :=
  List.rdropWhile_append_rtakeWhile

theorem endsClosed_stem (segments : List Segment) : EndsClosed (stem segments) := by
  intro segment last
  have some : stem segments ≠ [] := by
    rintro none
    simp [none] at last
  have closed := List.rdropWhile_last_not Segment.isOpen segments some
  rw [List.getLast?_eq_some_getLast some, Option.some.injEq] at last
  rw [← last]
  exact Bool.eq_false_iff.2 closed

/-- Segments split in one way only before the multi-segment wildcards at their end. -/
theorem stem_append (closed : EndsClosed front)
    (opened : ∀ segment ∈ wildcards, segment.isOpen = true) :
    stem (front ++ wildcards) = front ∧ openings (front ++ wildcards) = wildcards := by
  induction wildcards using List.reverseRecOn with
  | nil =>
      have notOpen : ∀ some : front ≠ [], ¬(front.getLast some).isOpen = true := fun some => by
        rw [closed _ (List.getLast?_eq_some_getLast some)]
        exact Bool.false_ne_true
      rw [List.append_nil]
      exact ⟨List.rdropWhile_eq_self_iff.2 notOpen, List.rtakeWhile_eq_nil_iff.2 notOpen⟩
  | append_singleton wildcards last ih =>
      obtain ⟨sameStem, sameOpenings⟩ := ih fun segment member =>
        opened segment (List.mem_append_left _ member)
      have lastOpen : last.isOpen = true := opened last (by simp)
      rw [← List.append_assoc, stem, openings, List.rdropWhile_concat_pos _ _ _ lastOpen,
        List.rtakeWhile_concat_pos _ _ _ lastOpen]
      exact ⟨sameStem, congrArg (· ++ [last]) sameOpenings⟩

theorem isOpen_of_mem_openings {segments : List Segment} (member : segment ∈ openings segments) :
    segment.isOpen = true :=
  List.mem_rtakeWhile_imp member

theorem EndsClosed.tail (closed : EndsClosed (segment :: front)) : EndsClosed front := by
  intro last isLast
  refine closed last ?_
  cases front with
  | nil => simp at isLast
  | cons next front => simpa using isLast

theorem EndsClosed.singleton (closed : EndsClosed [segment]) : segment.isOpen = false :=
  closed segment rfl

/-- Segments that end closed take something. -/
theorem eq_nil_of_aligned_nil (closed : EndsClosed front) (aligned : Aligned front []) :
    front = [] := by
  induction front with
  | nil => rfl
  | cons segment front ih =>
      cases opened : segment.isOpen with
      | true =>
          obtain ⟨some, rest, split, later⟩ := (aligned_cons_open opened).1 aligned
          obtain ⟨-, rfl⟩ := List.append_eq_nil_iff.1 split.symm
          obtain rfl := ih closed.tail later
          rw [closed.singleton] at opened
          exact absurd opened Bool.false_ne_true
      | false =>
          obtain ⟨first, rest, split, -, -⟩ := (aligned_cons_closed opened).1 aligned
          exact absurd split (by simp)

/-- Wildcards alone are reached with whatever is left of a request. -/
theorem reaches_openings (opened : ∀ segment ∈ wildcards, segment.isOpen = true)
    (some_wildcard : wildcards ≠ []) (some_path : path ≠ []) : Reaches wildcards path := by
  induction wildcards with
  | nil => exact absurd rfl some_wildcard
  | cons segment wildcards ih =>
      have here := opened segment List.mem_cons_self
      obtain ⟨first, others, rfl⟩ := List.exists_cons_of_ne_nil some_path
      by_cases last : wildcards = []
      · exact .all here (.inl last)
      · exact .some [] here
          (ih (fun segment member => opened segment (List.mem_cons_of_mem _ member)) last)

/-- What is left of a request when the segments before a wildcard are used up is taken by the
wildcard. -/
theorem reaches_of_left (canonical : ∀ segment ∈ front, segment.IsCanonical)
    (opened : ∀ segment ∈ wildcards, segment.isOpen = true) (some_wildcard : wildcards ≠ [])
    (aligned : Aligned front taken) (some_path : path ≠ []) :
    Reaches (front ++ wildcards) (taken ++ path) := by
  induction front generalizing taken with
  | nil =>
      obtain rfl : taken = [] := aligned
      exact reaches_openings opened some_wildcard some_path
  | cons segment front ih =>
      have later : ∀ segment ∈ front, segment.IsCanonical :=
        fun segment member => canonical segment (List.mem_cons_of_mem _ member)
      cases open_ : segment.isOpen with
      | true =>
          obtain ⟨some, rest, rfl, below⟩ := (aligned_cons_open open_).1 aligned
          rw [List.append_assoc]
          exact .some some open_ (ih later below)
      | false =>
          obtain ⟨first, rest, rfl, accepts, below⟩ := (aligned_cons_closed open_).1 aligned
          have tried := isTriedFor_of_accepts (canonical segment List.mem_cons_self) open_ accepts
          have reaches := ih later below
          obtain ⟨second, others, split⟩ := List.exists_cons_of_ne_nil reaches.ne_nil
          rw [List.cons_append, List.cons_append, split]
          exact .next tried (split ▸ reaches)

/-- A request that is used up by segments that end closed may leave what does not count. -/
theorem reaches_of_aligned (canonical : ∀ segment ∈ front, segment.IsCanonical)
    (closed : EndsClosed front) (aligned : Aligned front path) (some_path : path ≠ [])
    (ends : Ends wildcards) : Reaches (front ++ wildcards) path := by
  induction front generalizing path with
  | nil => exact absurd aligned some_path
  | cons segment front ih =>
      have later : ∀ segment ∈ front, segment.IsCanonical :=
        fun segment member => canonical segment (List.mem_cons_of_mem _ member)
      cases open_ : segment.isOpen with
      | true =>
          obtain ⟨some, rest, rfl, below⟩ := (aligned_cons_open open_).1 aligned
          -- something is left after the wildcard, since the segments behind it take something
          refine .some some open_ (ih later closed.tail below fun none => ?_)
          rw [none] at below
          obtain rfl := eq_nil_of_aligned_nil closed.tail below
          rw [closed.singleton] at open_
          exact Bool.false_ne_true open_
      | false =>
          obtain ⟨first, rest, rfl, accepts, below⟩ := (aligned_cons_closed open_).1 aligned
          have tried := isTriedFor_of_accepts (canonical segment List.mem_cons_self) open_ accepts
          cases rest with
          | nil =>
              obtain rfl := eq_nil_of_aligned_nil closed.tail below
              exact .last tried ends
          | cons second others => exact .next tried (ih later closed.tail below (by simp))

/-- Whether some segments of a request are left for the wildcards at the end of a pattern. -/
def LeavesSome (front path : List Segment) : Prop :=
  ∃ taken left, path = taken ++ left ∧ left ≠ [] ∧ Aligned front taken

theorem LeavesSome.nil (some_path : path ≠ []) : LeavesSome [] path :=
  ⟨[], path, rfl, some_path, rfl⟩

/-- A segment takes one segment of a request, whether it could take more or not. -/
theorem aligned_cons_of_isTriedFor {first : Segment} (canonical : segment.IsCanonical)
    (tried : segment.IsTriedFor first) (aligned : Aligned front path) :
    Aligned (segment :: front) (first :: path) := by
  cases open_ : segment.isOpen with
  | true => exact (aligned_cons_open open_).2 ⟨[first], path, rfl, aligned⟩
  | false =>
      exact (aligned_cons_closed open_).2
        ⟨first, path, rfl, accepts_of_isTriedFor canonical tried, aligned⟩

theorem LeavesSome.cons_open (opened : segment.isOpen = true) (some : List Segment)
    (leaves : LeavesSome front path) : LeavesSome (segment :: front) (some ++ path) := by
  obtain ⟨taken, left, rfl, some_left, aligned⟩ := leaves
  exact ⟨some ++ taken, left, (List.append_assoc ..).symm, some_left,
    (aligned_cons_open opened).2 ⟨some, taken, rfl, aligned⟩⟩

theorem LeavesSome.cons_tried {first : Segment} (canonical : segment.IsCanonical)
    (tried : segment.IsTriedFor first) (leaves : LeavesSome front path) :
    LeavesSome (segment :: front) (first :: path) := by
  obtain ⟨taken, left, rfl, some_left, aligned⟩ := leaves
  exact ⟨first :: taken, left, rfl, some_left, aligned_cons_of_isTriedFor canonical tried aligned⟩

/-- Of what does not count at the end nothing belongs to segments that end closed. -/
theorem ends_append (closed : EndsClosed front) (ends : Ends (front ++ wildcards)) :
    front = [] ∧ wildcards.length ≤ 1 := by
  rcases ends with none | ⟨segment, single, opened⟩
  · obtain ⟨rfl, rfl⟩ := List.append_eq_nil_iff.1 none
    exact ⟨rfl, by simp⟩
  · cases front with
    | nil => exact ⟨rfl, by simp [show wildcards = [segment] from single]⟩
    | cons first front =>
        obtain ⟨rfl, rest⟩ := List.cons.inj single
        obtain ⟨rfl, -⟩ := List.append_eq_nil_iff.1 rest
        rw [closed.singleton] at opened
        exact absurd opened Bool.false_ne_true

/-- Where a pattern has nothing but wildcards, the whole request is left for them. -/
theorem leavesSome_without_front {segments : List Segment} (split : segment :: segments = wildcards)
    (some_path : path ≠ []) : wildcards ≠ [] ∧ LeavesSome [] path :=
  ⟨split ▸ List.cons_ne_nil _ _, .nil some_path⟩

/-- A search that comes along a pattern leaves something for the wildcards at its end, or uses
up the request before them while there is one at most. -/
theorem leavesSome_of_reaches {segments : List Segment}
    (canonical : ∀ segment ∈ segments, segment.IsCanonical) (reaches : Reaches segments path)
    (split : segments = front ++ wildcards) (closed : EndsClosed front) :
    wildcards ≠ [] ∧ LeavesSome front path ∨ wildcards.length ≤ 1 ∧ Aligned front path := by
  induction reaches generalizing front with
  | last tried ends =>
      cases front with
      | nil => exact .inl (leavesSome_without_front split (by simp))
      | cons first front =>
          obtain ⟨rfl, rfl⟩ := List.cons.inj split
          obtain ⟨rfl, one⟩ := ends_append closed.tail ends
          exact .inr ⟨one, aligned_cons_of_isTriedFor (canonical _ List.mem_cons_self) tried rfl⟩
  | next tried reaches ih =>
      cases front with
      | nil => exact .inl (leavesSome_without_front split (by simp))
      | cons first front =>
          obtain ⟨rfl, rfl⟩ := List.cons.inj split
          have here := canonical _ List.mem_cons_self
          have later : ∀ segment ∈ front ++ wildcards, segment.IsCanonical :=
            fun segment member => canonical segment (List.mem_cons_of_mem _ member)
          rcases ih later rfl closed.tail with ⟨some, leaves⟩ | ⟨one, aligned⟩
          · exact .inl ⟨some, leaves.cons_tried here tried⟩
          · exact .inr ⟨one, aligned_cons_of_isTriedFor here tried aligned⟩
  | all open_ ends =>
      cases front with
      | nil => exact .inl (leavesSome_without_front split (by simp))
      | cons first front =>
          obtain ⟨rfl, rfl⟩ := List.cons.inj split
          obtain ⟨rfl, -⟩ := ends_append closed.tail ends
          rw [closed.singleton] at open_
          exact absurd open_ Bool.false_ne_true
  | some taken open_ reaches ih =>
      cases front with
      | nil => exact .inl (leavesSome_without_front split (Reaches.some taken open_ reaches).ne_nil)
      | cons first front =>
          obtain ⟨rfl, rfl⟩ := List.cons.inj split
          have later : ∀ segment ∈ front ++ wildcards, segment.IsCanonical :=
            fun segment member => canonical segment (List.mem_cons_of_mem _ member)
          rcases ih later rfl closed.tail with ⟨some, leaves⟩ | ⟨one, aligned⟩
          · exact .inl ⟨some, leaves.cons_open open_ taken⟩
          · exact .inr ⟨one, (aligned_cons_open open_).2 ⟨taken, _, rfl, aligned⟩⟩

/-- A search comes along a pattern exactly if something is left for the wildcards at its end, or
there is one at most and the request is used up before it. -/
theorem reaches_iff {segments : List Segment}
    (canonical : ∀ segment ∈ segments, segment.IsCanonical) (some_path : path ≠ []) :
    Reaches segments path ↔
      openings segments ≠ [] ∧ LeavesSome (stem segments) path ∨
        (openings segments).length ≤ 1 ∧ Aligned (stem segments) path := by
  have opened : ∀ segment ∈ openings segments, segment.isOpen = true :=
    fun segment => isOpen_of_mem_openings
  have canonicalStem : ∀ segment ∈ stem segments, segment.IsCanonical :=
    fun segment member =>
      canonical segment ((List.rdropWhile_prefix Segment.isOpen segments).subset member)
  constructor
  · intro reaches
    exact leavesSome_of_reaches canonical reaches (stem_append_openings segments).symm
      (endsClosed_stem segments)
  · intro covered
    rw [← stem_append_openings segments]
    rcases covered with ⟨some, taken, left, rfl, some_left, aligned⟩ | ⟨one, aligned⟩
    · exact reaches_of_left canonicalStem opened some aligned some_left
    · refine reaches_of_aligned canonicalStem (endsClosed_stem segments) aligned some_path ?_
      match openings segments, one, opened with
      | [], _, _ => exact .inl rfl
      | [segment], _, opened => exact .inr ⟨segment, rfl, opened segment List.mem_cons_self⟩

/-! ## Patterns that are given up too early -/

theorem aligned_append {more : List Segment} (aligned : Aligned (front ++ more) path) :
    ∃ taken left, path = taken ++ left ∧ Aligned front taken ∧ Aligned more left := by
  induction front generalizing path with
  | nil => exact ⟨[], path, rfl, rfl, aligned⟩
  | cons segment front ih =>
      cases open_ : segment.isOpen with
      | true =>
          obtain ⟨some, rest, rfl, below⟩ := (aligned_cons_open open_).1 aligned
          obtain ⟨taken, left, rfl, first, second⟩ := ih below
          exact ⟨some ++ taken, left, (List.append_assoc ..).symm,
            (aligned_cons_open open_).2 ⟨some, taken, rfl, first⟩, second⟩
      | false =>
          obtain ⟨here, rest, rfl, accepts, below⟩ := (aligned_cons_closed open_).1 aligned
          obtain ⟨taken, left, rfl, first, second⟩ := ih below
          exact ⟨here :: taken, left, rfl,
            (aligned_cons_closed open_).2 ⟨here, taken, rfl, accepts, first⟩, second⟩

/-- Whether a pattern has multi-segment wildcards at its end, right behind an empty segment. -/
def EndsEmpty (segments : List Segment) : Prop :=
  openings segments ≠ [] ∧ (stem segments).getLast? = some (.literal [])

theorem endsEmpty_of_append (front : List Segment)
    (opened : ∀ segment ∈ wildcards, segment.isOpen = true) (some_wildcard : wildcards ≠ []) :
    EndsEmpty (front ++ .literal [] :: wildcards) := by
  have closed : EndsClosed (front ++ [.literal []]) := by
    intro segment last
    rw [List.getLast?_concat] at last
    obtain rfl := Option.some.inj last
    rfl
  obtain ⟨sameStem, sameOpenings⟩ := stem_append closed opened
  rw [List.append_cons, EndsEmpty, sameStem, sameOpenings]
  exact ⟨some_wildcard, List.getLast?_concat ..⟩

theorem EndsEmpty.cons (empty : EndsEmpty front) (segment : Segment) :
    EndsEmpty (segment :: front) := by
  obtain ⟨some, last⟩ := empty
  obtain ⟨others, split⟩ := List.getLast?_eq_some_iff.1 last
  rw [← stem_append_openings front, split, List.append_assoc]
  exact endsEmpty_of_append (segment :: others) (fun _ => isOpen_of_mem_openings) some

/-- Whether a tree gives a pattern up although its segments could take those of a request: nothing
of the request is left for the multi-segment wildcards at the end of the pattern, of which there
are several, or one behind an empty segment. -/
def StopsShort (segments path : List Segment) : Prop :=
  (2 ≤ (openings segments).length ∨ EndsEmpty segments) ∧ ¬LeavesSome (stem segments) path

/-- An empty segment takes an empty one. -/
theorem text_of_aligned_empty (last : front.getLast? = some (.literal []))
    (aligned : Aligned front path) :
    ∃ segment, path.getLast? = some segment ∧ segment.text = "" := by
  obtain ⟨others, rfl⟩ := List.getLast?_eq_some_iff.1 last
  obtain ⟨taken, left, rfl, -, aligned⟩ := aligned_append aligned
  obtain ⟨first, rest, rfl, accepts, none⟩ := (aligned_cons_closed rfl).1 aligned
  obtain rfl : rest = [] := none
  exact ⟨first, List.getLast?_concat .., accepts⟩

/-- Of the patterns whose segments could take those of a request, a search comes along those that
are not given up too early. -/
theorem reaches_iff_not_stopsShort {segments : List Segment}
    (canonical : ∀ segment ∈ segments, segment.IsCanonical) (some_path : path ≠ [])
    (lastFull : ∀ segment, path.getLast? = some segment → segment.text ≠ "")
    (covered : Aligned segments path ∨ EndsEmpty segments) :
    Reaches segments path ↔ ¬StopsShort segments path := by
  rw [reaches_iff canonical some_path]
  constructor
  · -- an empty segment before the wildcards would have taken the last one of the request
    rintro (⟨-, leaves⟩ | ⟨one, aligned⟩) ⟨short, leavesNone⟩
    · exact leavesNone leaves
    · rcases short with several | ⟨-, last⟩
      · omega
      · obtain ⟨segment, isLast, empty⟩ := text_of_aligned_empty last aligned
        exact lastFull segment isLast empty
  · intro notShort
    by_cases leaves : LeavesSome (stem segments) path
    · by_cases none : openings segments = []
      · rcases covered with aligned | ⟨some, -⟩
        · refine .inr ⟨by simp [none], ?_⟩
          have whole := stem_append_openings segments
          rw [none, List.append_nil] at whole
          rwa [whole]
        · exact absurd none some
      · exact .inl ⟨none, leaves⟩
    · have notEmpty : ¬EndsEmpty segments := fun empty => notShort ⟨.inr empty, leaves⟩
      have one : ¬2 ≤ (openings segments).length := fun several => notShort ⟨.inl several, leaves⟩
      have aligned := covered.resolve_right notEmpty
      rw [← stem_append_openings segments] at aligned
      obtain ⟨taken, left, rfl, first, -⟩ := aligned_append aligned
      -- what the wildcards take is nothing, or it would be left for them
      by_cases none : left = []
      · rw [none, List.append_nil]
        exact .inr ⟨by omega, first⟩
      · exact absurd ⟨taken, left, rfl, none, first⟩ leaves

end
end RequestRouting

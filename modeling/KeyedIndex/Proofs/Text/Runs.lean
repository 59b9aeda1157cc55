import KeyedIndex.Text.Basic
import Mathlib.Data.List.Basic

/-!
Runs of a list. The runs are the non-empty stretches without separators that lie between
separators or at an end of the list (`mem_runs_iff`). Stretches that are put one after the other
with separators between them are the runs of what is put together (`runs_spread`).
-/
namespace KeyedIndex.Text

variable {α : Type} {separates : α → Bool}

/-- Whether a stretch is not empty, has no separators, and lies between separators or at an end. -/
structure IsRun (separates : α → Bool) (before run after : List α) : Prop where
  present : run ≠ []
  inside : ∀ item ∈ run, separates item = false
  left : ∀ item ∈ before.getLast?, separates item = true
  right : ∀ item ∈ after.head?, separates item = true

theorem isRun_iff {before run after : List α} : IsRun separates before run after ↔
    (!run.isEmpty ∧ run.all (!separates ·) ∧ before.getLast?.all separates ∧
      after.head?.all separates) := by
  simp only [Option.all_eq_true, List.all_eq_true, Bool.not_eq_true', List.isEmpty_eq_false_iff]
  constructor
  · exact fun ⟨present, inside, left, right⟩ => ⟨present, inside, left, right⟩
  · exact fun ⟨present, inside, left, right⟩ => ⟨present, inside, left, right⟩

instance (before run after : List α) : Decidable (IsRun separates before run after) :=
  decidable_of_iff _ isRun_iff.symm

theorem pieces_ne_nil (items : List α) : pieces separates items ≠ [] := by
  cases items with
  | nil => simp [pieces]
  | cons item rest =>
    rw [pieces]
    split
    · simp
    · split <;> simp

theorem pieces_of_separates {item : α} (separator : separates item = true) (rest : List α) :
    pieces separates (item :: rest) = [] :: pieces separates rest := by
  rw [pieces, if_pos separator]

/-- An item that does not separate is put in front of the first piece. -/
theorem pieces_of_not_separates {item : α} (inside : separates item = false) {rest piece : List α}
    {more : List (List α)} (pieced : pieces separates rest = piece :: more) :
    pieces separates (item :: rest) = (item :: piece) :: more := by
  rw [pieces, if_neg (by simp [inside]), pieced]

/-- A list without separators is one piece. -/
theorem pieces_of_inside {run : List α} (inside : ∀ item ∈ run, separates item = false) :
    pieces separates run = [run] := by
  induction run with
  | nil => rfl
  | cons first rest ih =>
    obtain ⟨kind, others⟩ := List.forall_mem_cons.mp inside
    exact pieces_of_not_separates kind (ih others)

/-- What is only one piece is the piece. -/
theorem eq_of_pieces_eq_singleton {items piece : List α} (pieced : pieces separates items = [piece]) :
    piece = items := by
  induction items generalizing piece with
  | nil => exact (List.singleton_inj.mp pieced).symm
  | cons first rest ih =>
    obtain ⟨next, more, split⟩ := List.exists_cons_of_ne_nil (@pieces_ne_nil α separates rest)
    by_cases kind : separates first = true
    · rw [pieces_of_separates kind, split] at pieced
      simp at pieced
    · rw [pieces_of_not_separates (by simpa using kind) split] at pieced
      obtain ⟨rfl, rfl⟩ := List.cons.inj pieced
      rw [ih split]

/-- A separator cuts the list. -/
theorem pieces_append_separator {item : α} (separator : separates item = true)
    (before after : List α) : pieces separates (before ++ item :: after) =
      pieces separates before ++ pieces separates after := by
  induction before with
  | nil => exact pieces_of_separates separator after
  | cons first rest ih =>
    cases kind : separates first with
    | true => rw [List.cons_append, pieces_of_separates kind, pieces_of_separates kind, ih]; rfl
    | false =>
      obtain ⟨piece, more, pieced⟩ := List.exists_cons_of_ne_nil (pieces_ne_nil rest)
      rw [pieced] at ih
      rw [List.cons_append, pieces_of_not_separates kind pieced, pieces_of_not_separates kind ih]
      rfl

/-- A stretch without separators in front of one is the first piece. -/
theorem pieces_append {run after : List α} (inside : ∀ item ∈ run, separates item = false)
    (right : ∀ item ∈ after.head?, separates item = true) :
    ∃ more, pieces separates (run ++ after) = run :: more := by
  induction run with
  | nil =>
    cases after with
    | nil => exact ⟨[], rfl⟩
    | cons item rest => exact ⟨_, pieces_of_separates (right item rfl) rest⟩
  | cons first rest ih =>
    obtain ⟨kind, others⟩ := List.forall_mem_cons.mp inside
    obtain ⟨more, pieced⟩ := ih others
    exact ⟨more, pieces_of_not_separates kind pieced⟩

/-- A stretch between separators is one of the runs. -/
theorem IsRun.mem_runs {before run after : List α} (isRun : IsRun separates before run after) :
    run ∈ runs separates (before ++ (run ++ after)) := by
  refine List.mem_filter.mpr ⟨?_, by simp [isRun.present]⟩
  obtain ⟨more, pieced⟩ := pieces_append isRun.inside isRun.right
  rcases List.eq_nil_or_concat before with rfl | ⟨front, item, rfl⟩
  · rw [List.nil_append, pieced]
    exact List.mem_cons_self
  · -- The separator in front of the run cuts off all that is before.
    have separator := isRun.left item (by simp)
    rw [List.concat_eq_append, List.append_assoc, List.singleton_append,
      pieces_append_separator separator, pieced]
    exact List.mem_append_right _ List.mem_cons_self

/-- The first piece ends at a separator or at the end of the list, and every other one lies behind a
    separator. -/
theorem pieces_eq_cons {items piece : List α} {more : List (List α)}
    (pieced : pieces separates items = piece :: more) :
    (∃ after, items = piece ++ after ∧ (∀ item ∈ piece, separates item = false) ∧
      ∀ item ∈ after.head?, separates item = true) ∧
    ∀ later ∈ more, ∃ front separator after, items = front ++ separator :: (later ++ after) ∧
      separates separator = true ∧ (∀ item ∈ later, separates item = false) ∧
      ∀ item ∈ after.head?, separates item = true := by
  induction items generalizing piece more with
  | nil =>
    obtain ⟨rfl, rfl⟩ := List.cons.inj pieced
    exact ⟨⟨[], by simp⟩, by simp⟩
  | cons first rest ih =>
    obtain ⟨next, others, split⟩ :=
      List.exists_cons_of_ne_nil (@pieces_ne_nil α separates rest)
    obtain ⟨⟨after, here, inside, right⟩, behind⟩ := ih split
    by_cases kind : separates first = true
    · rw [pieces_of_separates kind, split] at pieced
      obtain ⟨rfl, rfl⟩ := List.cons.inj pieced
      refine ⟨⟨first :: rest, by simp [kind]⟩, ?_⟩
      intro later member
      rcases List.mem_cons.mp member with rfl | further
      · exact ⟨[], first, after, by simp [here], kind, inside, right⟩
      · obtain ⟨front, separator, after, there, facts⟩ := behind later further
        exact ⟨first :: front, separator, after, by simp [there], facts⟩
    · have noSeparator : separates first = false := by simpa using kind
      rw [pieces_of_not_separates noSeparator split] at pieced
      obtain ⟨rfl, rfl⟩ := List.cons.inj pieced
      refine ⟨⟨after, by simp [here], ?_, right⟩, ?_⟩
      · exact List.forall_mem_cons.mpr ⟨noSeparator, inside⟩
      · intro later member
        obtain ⟨front, separator, after, there, facts⟩ := behind later member
        exact ⟨first :: front, separator, after, by simp [there], facts⟩

/-- The runs are the stretches between separators. -/
theorem mem_runs_iff {items run : List α} : run ∈ runs separates items ↔
    ∃ before after, items = before ++ (run ++ after) ∧ IsRun separates before run after := by
  constructor
  · intro member
    obtain ⟨inPieces, notEmpty⟩ := List.mem_filter.mp member
    have present : run ≠ [] := by simpa using notEmpty
    obtain ⟨piece, more, pieced⟩ :=
      List.exists_cons_of_ne_nil (@pieces_ne_nil α separates items)
    obtain ⟨⟨after, here, inside, right⟩, behind⟩ := pieces_eq_cons pieced
    rw [pieced] at inPieces
    rcases List.mem_cons.mp inPieces with rfl | later
    · exact ⟨[], after, here, present, inside, by simp, right⟩
    · obtain ⟨front, separator, after, there, kind, inside, right⟩ := behind run later
      exact ⟨front ++ [separator], after, by simp [there], present, inside, by simp [kind], right⟩
  · rintro ⟨before, after, rfl, isRun⟩
    exact isRun.mem_runs

/-! ### Runs that are put together -/

/-- Separators in front of a list add no runs. -/
theorem runs_append_separators {gap : List α} (gapped : ∀ item ∈ gap, separates item = true)
    (rest : List α) : runs separates (gap ++ rest) = runs separates rest := by
  induction gap with
  | nil => rfl
  | cons first others ih =>
    obtain ⟨kind, later⟩ := List.forall_mem_cons.mp gapped
    rw [List.cons_append, ← ih later, runs, pieces_of_separates kind]
    simp [runs]

/-- A stretch in front of a separator is the first run. -/
theorem runs_append {run after : List α} (present : run ≠ [])
    (inside : ∀ item ∈ run, separates item = false)
    (right : ∀ item ∈ after.head?, separates item = true) :
    runs separates (run ++ after) = run :: runs separates after := by
  cases after with
  | nil => simp [runs, pieces_of_inside inside, present, pieces]
  | cons separator rest =>
    have kind : separates separator = true := right separator rfl
    rw [runs, pieces_append_separator kind, pieces_of_inside inside, runs, pieces_of_separates kind]
    simp [present]

/-- Stretches one after the other, with gaps before the first of them and behind each. -/
def spread (lead : List α) (stretches : List (List α × List α)) : List α :=
  lead ++ stretches.flatMap (fun stretch => stretch.1 ++ stretch.2)

/-- Stretches that are kept apart by separators: all gaps have separators only, and those between
    two stretches are not empty. -/
structure KeptApart (separates : α → Bool) (lead : List α) (stretches : List (List α × List α)) :
    Prop where
  lead : ∀ item ∈ lead, separates item = true
  gaps : ∀ stretch ∈ stretches, ∀ item ∈ stretch.2, separates item = true
  between : ∀ stretch ∈ stretches.dropLast, stretch.2 ≠ []

/-- What follows the first stretch begins with a separator, if there is any, and is kept apart
    too. -/
theorem KeptApart.tail {lead word gap : List α} {rest : List (List α × List α)}
    (apart : KeptApart separates lead ((word, gap) :: rest)) :
    KeptApart separates gap rest ∧ ∀ item ∈ (spread gap rest).head?, separates item = true := by
  obtain ⟨gapped, gaps⟩ := List.forall_mem_cons.mp apart.gaps
  cases rest with
  | nil =>
    refine ⟨⟨gapped, gaps, by simp⟩, ?_⟩
    intro item first
    rw [spread, List.flatMap_nil, List.append_nil] at first
    exact gapped item (List.mem_of_head? first)
  | cons next others =>
    obtain ⟨present, between⟩ := List.forall_mem_cons.mp apart.between
    refine ⟨⟨gapped, gaps, between⟩, ?_⟩
    intro item first
    rw [spread, List.head?_append_of_ne_nil _ present] at first
    exact gapped item (List.mem_of_head? first)

/-- The runs of stretches that are kept apart are the stretches. -/
theorem runs_spread {lead : List α} {stretches : List (List α × List α)}
    (apart : KeptApart separates lead stretches)
    (solid : ∀ stretch ∈ stretches, stretch.1 ≠ [] ∧ ∀ item ∈ stretch.1, separates item = false) :
    runs separates (spread lead stretches) = stretches.map Prod.fst := by
  induction stretches generalizing lead with
  | nil =>
    rw [spread, runs_append_separators apart.lead]
    rfl
  | cons stretch rest ih =>
    obtain ⟨word, gap⟩ := stretch
    obtain ⟨⟨present, inside⟩, solidRest⟩ := List.forall_mem_cons.mp solid
    obtain ⟨apartRest, right⟩ := apart.tail
    have split : spread lead ((word, gap) :: rest) = lead ++ (word ++ spread gap rest) := by
      simp [spread]
    rw [split, runs_append_separators apart.lead, runs_append present inside right,
      ih apartRest solidRest, List.map_cons]

end KeyedIndex.Text

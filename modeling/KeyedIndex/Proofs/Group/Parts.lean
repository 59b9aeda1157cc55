import KeyedIndex.Proofs.Group.Names

/-!
The parts of a name as a canonical form of it. They are the runs of the small form of the name,
sorted (`mem_nameParts_iff`). A part has no separators and is its own small form, so when the parts
are written in any order and any number of times with separators between them, the name that comes
out has the same parts (`nameParts_canonical`).
-/
namespace KeyedIndex

open Text (lowerChars)

/-- Words, each with the gap behind it, as stretches of a name. -/
def stretches (words : List (String × List Char)) : List (List Char × List Char) :=
  words.map fun word => (word.1.toList, word.2)

/-- A name of words, with a gap before the first of them and one behind each. -/
def spreadName (lead : List Char) (words : List (String × List Char)) : String :=
  String.ofList (Text.spread lead (stretches words))

/-! ### Parts -/

theorem mem_nameParts_iff {name part : String} :
    part ∈ nameParts name ↔ part.toList ∈ Text.runs separatesName (lowerChars name.toList) := by
  rw [nameParts, Text.mem_sortDistinct, List.mem_map]
  constructor
  · rintro ⟨run, member, rfl⟩
    rwa [String.toList_ofList]
  · intro member
    exact ⟨part.toList, member, String.ofList_toList⟩

/-- A part is not empty, has no separators, and its characters are small. -/
theorem solid_of_mem_nameParts {name part : String} (member : part ∈ nameParts name) :
    part.toList ≠ [] ∧ ∀ char ∈ part.toList, separatesName char = false ∧ Text.Small char := by
  obtain ⟨before, after, split, isRun⟩ := Text.mem_runs_iff.mp (mem_nameParts_iff.mp member)
  refine ⟨isRun.present, ?_⟩
  intro char inside
  have inSmall : char ∈ lowerChars name.toList := by
    rw [split]
    simp [inside]
  exact ⟨isRun.inside char inside, Text.small_of_mem_lowerAfter inSmall⟩

/-! ### Names that are made of parts -/

section Words

variable {lead : List Char} {words : List (String × List Char)}
  (apart : Text.KeptApart separatesName lead (stretches words))
include apart

/-- A name of small words that are kept apart is its own small form. -/
theorem lowerChars_spreadName (small : ∀ word ∈ words, ∀ char ∈ word.1.toList, Text.Small char) :
    lowerChars (spreadName lead words).toList = Text.spread lead (stretches words) := by
  rw [spreadName, String.toList_ofList]
  refine Text.lowerAfter_of_small ?_
  intro char member
  rcases List.mem_append.mp member with inLead | inWords
  · exact small_of_separatesName (apart.lead char inLead)
  · obtain ⟨stretch, stretchIn, inStretch⟩ := List.mem_flatMap.mp inWords
    rcases List.mem_append.mp inStretch with inWord | inGap
    · obtain ⟨word, wordIn, rfl⟩ := List.mem_map.mp stretchIn
      exact small word wordIn char inWord
    · exact small_of_separatesName (apart.gaps stretch stretchIn char inGap)

/-- A name of small words that are kept apart has the words as its parts. -/
theorem mem_nameParts_spreadName (solid : ∀ word ∈ words, word.1.toList ≠ [] ∧
      ∀ char ∈ word.1.toList, separatesName char = false ∧ Text.Small char) (part : String) :
    part ∈ nameParts (spreadName lead words) ↔ part ∈ words.map Prod.fst := by
  have small : ∀ word ∈ words, ∀ char ∈ word.1.toList, Text.Small char :=
    fun word member char inside => ((solid word member).2 char inside).2
  have runs : Text.runs separatesName (Text.spread lead (stretches words)) =
      (words.map Prod.fst).map String.toList := by
    rw [Text.runs_spread apart, stretches, List.map_map, List.map_map]
    · rfl
    · intro stretch member
      obtain ⟨word, wordIn, rfl⟩ := List.mem_map.mp member
      obtain ⟨present, inside⟩ := solid word wordIn
      exact ⟨present, fun char charIn => (inside char charIn).1⟩
  rw [mem_nameParts_iff, lowerChars_spreadName apart small, runs]
  exact List.mem_map_of_injective fun _ _ => String.toList_inj.mp

end Words

/-- The parts of every name are in the strict order of their bytes and are the longest non-empty
    stretches of its small form without separators. However they are written one after the other,
    in any order, each of them once or more, and with any separators between them, before and
    behind, the name that comes out has the same parts. -/
theorem nameParts_canonical (name : String) :
    (nameParts name).Pairwise (fun first second => Text.bytes first < Text.bytes second) ∧
    (∀ part : String, part ∈ nameParts name ↔ ∃ before after,
      lowerChars name.toList = before ++ (part.toList ++ after) ∧
        Text.IsRun separatesName before part.toList after) ∧
    ∀ lead words, Text.KeptApart separatesName lead (stretches words) →
      (∀ part, part ∈ words.map Prod.fst ↔ part ∈ nameParts name) →
      nameParts (spreadName lead words) = nameParts name := by
  refine ⟨?_, ?_, ?_⟩
  · exact (Text.sortDistinct_pairwise _).imp (Text.before_iff _ _).mp
  · intro part
    rw [mem_nameParts_iff, Text.mem_runs_iff]
  · intro lead words apart all
    have solid : ∀ word ∈ words, word.1.toList ≠ [] ∧
        ∀ char ∈ word.1.toList, separatesName char = false ∧ Text.Small char :=
      fun word member => solid_of_mem_nameParts ((all word.1).mp (List.mem_map_of_mem member))
    refine Text.eq_of_pairwise_before (Text.sortDistinct_pairwise _) (Text.sortDistinct_pairwise _) ?_
    intro part
    exact (mem_nameParts_spreadName apart solid part).trans (all part)

/-- The sigma of a part stays as it is at another place in a name, where a capital one would become
    a final one. -/
theorem nameParts_canonical_initials :
    nameParts "ΑΣ.Β Core" = ["core", "ασ", "β"] ∧
      nameParts "/β-_ασ@core.ασ" = nameParts "ΑΣ.Β Core" := by
  have parts : nameParts "ΑΣ.Β Core" = ["core", "ασ", "β"] := by decide +kernel
  refine ⟨parts, ?_⟩
  have apart : Text.KeptApart separatesName ['/']
      (stretches [("β", ['-', '_']), ("ασ", ['@']), ("core", ['.']), ("ασ", [])]) :=
    ⟨by simp [separatesName], by simp [stretches, separatesName], by simp [stretches]⟩
  have written : spreadName ['/'] [("β", ['-', '_']), ("ασ", ['@']), ("core", ['.']), ("ασ", [])] =
      "/β-_ασ@core.ασ" := by decide +kernel
  rw [← written]
  refine (nameParts_canonical "ΑΣ.Β Core").2.2 _ _ apart fun part => ?_
  rw [parts]
  simp only [List.map_cons, List.map_nil, List.mem_cons, List.not_mem_nil, or_false]
  tauto

end KeyedIndex

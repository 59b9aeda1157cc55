import KeyedIndex.Proofs.Group.Leaves
import KeyedIndex.Proofs.Query.Written
import KeyedIndex.Proofs.Text.Order
import KeyedIndex.Proofs.Text.Runs
import KeyedIndex.Proofs.Text.Sigma

/-!
Names of groups are found by their words in any case. Small forms separate the parts of a name
where the name separates its words (`separatesName_lowerAt`), so the small form that a word has
within the name is a part of the name (`mem_nameParts`). A group is found by a start of the word
if the small form of the start by itself is the one that it has within the name
(`GroupSchema.finds_word`), which depends on the capital sigmas only.
-/
namespace KeyedIndex

open Text (lowerAt lowerBetween)

/-! ### Separators -/

theorem small_of_separatesName {char : Char} (separator : separatesName char = true) :
    Text.Small char := by
  simp only [separatesName, decide_eq_true_eq, List.mem_cons, List.not_mem_nil, or_false]
    at separator
  rcases separator with rfl | rfl | rfl | rfl | rfl | rfl <;> decide

theorem toNat_lt_of_separatesName {char : Char} (separator : separatesName char = true) :
    char.toNat < 96 := by
  simp only [separatesName, decide_eq_true_eq, List.mem_cons, List.not_mem_nil, or_false]
    at separator
  rcases separator with rfl | rfl | rfl | rfl | rfl | rfl <;> decide

/-- No capital has a small form among the separators. -/
theorem caseSpans_leastImage : ∀ span ∈ Text.caseSpans, 96 ≤ span.leastImage := by decide +kernel

theorem not_separatesName_lowerChar {char other : Char} (inside : separatesName char = false)
    (member : other ∈ Text.lowerChar char) : separatesName other = false := by
  unfold Text.lowerChar at member
  split at member
  · simp only [List.mem_cons, List.not_mem_nil, or_false] at member
    rcases member with rfl | rfl <;> decide
  · rename_i dotless
    obtain rfl := List.mem_singleton.mp member
    rcases Text.lowerCode_cases Text.caseSpans char.toNat with same | ⟨span, spanIn, has, image⟩
    · rwa [same, Char.ofNat_toNat]
    · -- A capital has a small form above all separators.
      have valid := (Text.settled_lowerCode dotless).1
      have least := has.image_mem.1
      have above := caseSpans_leastImage span spanIn
      rw [← image] at least
      by_contra separator
      have below := toNat_lt_of_separatesName (by simpa using separator)
      rw [Char.toNat_ofNat, if_pos valid] at below
      omega

/-- The small form of a character separates exactly if the character does. -/
theorem separatesName_lowerAt {before after : List Char} {char other : Char}
    (member : other ∈ lowerAt before char after) : separatesName other = separatesName char := by
  cases kind : separatesName char with
  | true =>
    rw [Text.lowerAt_of_small (small_of_separatesName kind)] at member
    rwa [List.mem_singleton.mp member]
  | false =>
    unfold lowerAt at member
    split at member
    · obtain rfl := List.mem_singleton.mp member
      split <;> decide
    · exact not_separatesName_lowerChar kind member

/-! ### Words and parts -/

theorem not_separatesName_lowerBetween {before chars after : List Char}
    (inside : ∀ char ∈ chars, separatesName char = false) :
    ∀ char ∈ lowerBetween before chars after, separatesName char = false := by
  induction chars generalizing before with
  | nil => simp [lowerBetween]
  | cons first rest ih =>
    obtain ⟨kind, others⟩ := List.forall_mem_cons.mp inside
    intro char member
    rw [lowerBetween] at member
    rcases List.mem_append.mp member with here | later
    · rw [separatesName_lowerAt here, kind]
    · exact ih others char later

/-- The small form of a word within a name lies between separators as the word does. -/
theorem isRun_lowerBetween {before word after : List Char}
    (isWord : Text.IsRun separatesName before word after) :
    Text.IsRun separatesName (lowerBetween [] before (word ++ after))
      (lowerBetween before.reverse word after)
      (lowerBetween (word.reverse ++ before.reverse) after []) where
  present := Text.lowerBetween_ne_nil isWord.present
  inside := not_separatesName_lowerBetween isWord.inside
  left item last := by
    rcases List.eq_nil_or_concat before with rfl | ⟨front, separator, rfl⟩
    · simp [lowerBetween] at last
    · have separates := isWord.left separator (by simp)
      rw [List.concat_eq_append, Text.lowerBetween_append, lowerBetween,
        Text.lowerAt_of_small (small_of_separatesName separates)] at last
      obtain rfl : separator = item := by simpa [lowerBetween] using last
      exact separates
  right item first := by
    cases after with
    | nil => simp [lowerBetween] at first
    | cons separator rest =>
      have separates := isWord.right separator rfl
      rw [lowerBetween, Text.lowerAt_of_small (small_of_separatesName separates)] at first
      obtain rfl : separator = item := by simpa using first
      exact separates

/-- The small form that a word has within a name is a part of the name. -/
theorem mem_nameParts {name : String} {before word after : List Char}
    (split : name.toList = before ++ (word ++ after))
    (isWord : Text.IsRun separatesName before word after) :
    String.ofList (lowerBetween before.reverse word after) ∈ nameParts name := by
  rw [nameParts, Text.mem_sortDistinct, split, Text.lowerChars_append]
  exact List.mem_map_of_mem (isRun_lowerBetween isWord).mem_runs

/-! ### Searching -/

theorem GroupSchema.namePart_mem {schema : Schema Group} {version : UInt32}
    (known : GroupSchema.ofVersion version = .ok schema) : GroupSchema.namePart ∈ schema.fields := by
  rcases GroupSchema.ofVersion_eq_ok known with rfl | rfl <;>
    simp [GroupSchema.first, GroupSchema.second, GroupSchema.firstFields]

theorem GroupSchema.lookedUp_namePart (wanted : String) :
    GroupSchema.namePart.lookedUp wanted = Text.lower wanted := rfl

theorem GroupPredicate.matches?_namePart (wanted : String) (group : Group) :
    (GroupPredicate.namePart wanted).matches? group = some true ↔
      ∃ part ∈ group.nameParts, (Text.lower wanted).toList <+: part.toList := by
  simp [GroupPredicate.namePart, GroupPredicate.matching, Predicate.matches?, Predicate.outcome?,
    Predicate.isMatchable, Predicate.evaluate]

/-- A word of the name of a group finds the group, and so does every start of the word in any case,
    with and without the index, provided that the capital sigmas of the text that is looked up end
    words by themselves where they do within the name. -/
theorem GroupSchema.finds_word {schema : Schema Group} {version : UInt32}
    (known : GroupSchema.ofVersion version = .ok schema) {group : Group}
    {before start rest after : List Char}
    (split : group.name.toList = before ++ ((start ++ rest) ++ after))
    (isWord : Text.IsRun separatesName before (start ++ rest) after) (present : start ≠ [])
    (agree : Text.SigmasAgree before.reverse start (rest ++ after)) :
    (GroupPredicate.namePart (String.ofList start)).matches? group = some true ∧
      (Text.byteLength (Text.lower (String.ofList (start ++ rest))) ≤ termLimit →
        schema.Finds group (GroupPredicate.namePart (String.ofList start)) ∧
        (rest = [] → schema.Finds group (.onField "inname" .equals (String.ofList start)))) := by
  have member := GroupSchema.namePart_mem known
  have partIn := mem_nameParts split isWord
  have given : FieldValue.text _ ∈ GroupSchema.namePart.values group := List.mem_map_of_mem partIn
  have begins := Text.lower_prefix_lowerBetween agree
  -- A final sigma takes as many bytes as another one, so the context does not change the size.
  have sized : Text.byteLength (String.ofList (lowerBetween before.reverse (start ++ rest) after)) =
      Text.byteLength (Text.lower (String.ofList (start ++ rest))) := by
    rw [Text.lower, String.toList_ofList, Text.lowerChars_eq,
      Text.byteLength_lowerBetween before.reverse []]
  refine ⟨?_, fun short => ?_⟩
  · rw [GroupPredicate.matches?_namePart]
    exact ⟨_, partIn, by rwa [String.toList_ofList]⟩
  · rw [← sized] at short
    constructor
    · refine Schema.finds_startsWith member rfl given short (Text.lower_ne_empty present) _ ?_
      rwa [lookedUp_namePart, Text.lower_lower, String.toList_ofList]
    · rintro rfl
      rw [List.append_nil] at given short
      refine Schema.finds_equals member rfl given short (by simpa using present) none ?_
      rw [lookedUp_namePart, Text.lower, String.toList_ofList,
        ← Text.lowerBetween_eq_iff.mpr agree, List.nil_append]

/-- A start and a word of a name in capitals, the start with a capital sigma. -/
theorem GroupSchema.finds_word_sophia :
    let group := Group.ofName 1 ⟨"g1", by decide, by decide⟩ "ΣΟΦΙΑ-Admins" .epoch
    (GroupPredicate.namePart "ΣΟΦ").matches? group = some true ∧
      GroupSchema.second.Finds group (GroupPredicate.namePart "ΣΟΦ") ∧
      GroupSchema.second.Finds group (.onField "inname" .equals "Admins") := by
  intro group
  have known : GroupSchema.ofVersion 2 = .ok GroupSchema.second := rfl
  have isFirst : Text.IsRun separatesName [] ("ΣΟΦ".toList ++ "ΙΑ".toList) "-Admins".toList := by
    decide
  have isLast : Text.IsRun separatesName "ΣΟΦΙΑ-".toList ("Admins".toList ++ []) [] := by decide
  have firstSplit : group.name.toList =
      [] ++ (("ΣΟΦ".toList ++ "ΙΑ".toList) ++ "-Admins".toList) := by decide
  have lastSplit : group.name.toList = "ΣΟΦΙΑ-".toList ++ (("Admins".toList ++ []) ++ []) := by
    decide
  have start := GroupSchema.finds_word known firstSplit isFirst (by decide) (by decide)
  have word := GroupSchema.finds_word known lastSplit isLast (by decide)
    (Text.sigmasAgree_of_not_mem (by decide))
  exact ⟨start.1, (start.2 (by decide)).1, (word.2 (by decide)).2 rfl⟩

/-- The start of a word in capitals does not find it if a sigma inside the word ends the start, and
    a word does not either if its last sigma does not end a word of the name as a whole. -/
theorem GroupSchema.sigma_unfound :
    let odysseus := Group.ofName 1 ⟨"g1", by decide, by decide⟩ "ΟΔΥΣΣΕΥΣ" .epoch
    let initials := Group.ofName 2 ⟨"g2", by decide, by decide⟩ "ΑΣ.Β" .epoch
    (Text.IsRun separatesName [] "ΟΔΥΣΣΕΥΣ".toList [] ∧
      (GroupPredicate.namePart "ΟΔΥΣ").matches? odysseus = some false ∧
      ¬ GroupSchema.second.Finds odysseus (GroupPredicate.namePart "ΟΔΥΣ")) ∧
    (Text.IsRun separatesName [] "ΑΣ".toList ".Β".toList ∧
      ¬ GroupSchema.second.Finds initials (.onField "inname" .equals "ΑΣ")) := by
  refine ⟨⟨by decide, by decide, ?_⟩, by decide, ?_⟩
  · rintro ⟨query, compiled, found⟩
    obtain rfl := Except.ok.inj compiled
    exact absurd found (by decide)
  · rintro ⟨query, compiled, found⟩
    obtain rfl := Except.ok.inj compiled
    exact absurd found (by decide)

end KeyedIndex

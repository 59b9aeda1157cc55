import KeyedIndex.Text.Words
import Mathlib.Algebra.GroupWithZero.Nat
import Mathlib.Algebra.Order.BigOperators.Group.List

/-!
Small forms are small already: no character of the small form of a text has another small
form (`small_of_mem_lowerAfter`), so to take the small form again changes nothing
(`lower_lower`). A small form may need more bytes than the text; but a long run is no word, and the
small form of a short one is not long either (`byteLength_lt_of_mem_words`).
-/
namespace KeyedIndex.Text

/-- A code point is a capital of a span. -/
def CaseSpan.Has (span : CaseSpan) (code : Nat) : Prop :=
  span.first ≤ code ∧ code ≤ span.last ∧ (code - span.first) % span.step = 0

/-- The small form of the first capital of a span. -/
def CaseSpan.leastImage (span : CaseSpan) : Nat := (span.first + span.shift).toNat

/-- The small form of the last capital of a span. -/
def CaseSpan.greatestImage (span : CaseSpan) : Nat := (span.last + span.shift).toNat

/-- A span has capitals, and their small forms are code points of characters. -/
def CaseSpan.legal (span : CaseSpan) : Bool :=
  span.first ≤ span.last && 0 ≤ span.first + span.shift &&
    (span.greatestImage < 0xD800 || 0xDFFF < span.leastImage && span.greatestImage < 0x110000)

/-- The small forms of a span are not among the capitals of another one: they are less or greater,
    or are at every other code point between them. -/
def CaseSpan.avoids (span other : CaseSpan) : Bool :=
  -- The check of all pairs of spans is computed, which is quick with `Nat.blt`.
  Nat.blt span.greatestImage other.first || Nat.blt other.last span.leastImage ||
    other.step = 2 && (span.step = 2 || span.first = span.last) &&
      (span.leastImage + other.first) % 2 = 1

/-- A code point of a small letter: it is a character other than the capital I with a dot above,
    and its own small form. -/
def Settled (code : Nat) : Prop :=
  code.isValidChar ∧ code ≠ 'İ'.toNat ∧ lowerCode caseSpans code = code

/-- A character that the small form of a text leaves as it is, wherever it stands. -/
def Small (char : Char) : Prop := char ≠ 'Σ' ∧ lowerChar char = [char]

instance (char : Char) : Decidable (Small char) := inferInstanceAs (Decidable (_ ∧ _))

/-! ### Code points -/

/-- A code point that has a small form is a capital of a span, which tells the small form. -/
theorem lowerCode_cases (spans : List CaseSpan) (code : Nat) :
    lowerCode spans code = code ∨
      ∃ span ∈ spans, span.Has code ∧ lowerCode spans code = (code + span.shift).toNat := by
  fun_induction lowerCode spans code with
  | case1 => exact .inl rfl
  | case2 => exact .inl rfl
  | case3 span rest code behind inside =>
    exact .inr ⟨span, List.mem_cons_self, ⟨by omega, inside⟩, rfl⟩
  | case4 span rest code behind outside ih =>
    rcases ih with same | ⟨other, member, has, small⟩
    · exact .inl same
    · exact .inr ⟨other, List.mem_cons_of_mem _ member, has, small⟩

/-- A code point that is no capital is its own small form. -/
theorem lowerCode_of_not_has {spans : List CaseSpan} {code : Nat}
    (none : ∀ span ∈ spans, ¬ span.Has code) : lowerCode spans code = code := by
  rcases lowerCode_cases spans code with same | ⟨span, member, has, _⟩
  · exact same
  · exact absurd has (none span member)

/-- The small form of a capital lies between those of the first and of the last. -/
theorem CaseSpan.Has.image_mem {span : CaseSpan} {code : Nat} (has : span.Has code) :
    span.leastImage ≤ (code + span.shift).toNat ∧ (code + span.shift).toNat ≤ span.greatestImage := by
  obtain ⟨lower, upper, _⟩ := has
  simp only [CaseSpan.leastImage, CaseSpan.greatestImage]
  omega

theorem CaseSpan.Has.not_has_image {span other : CaseSpan} {code : Nat} (has : span.Has code)
    (legal : span.legal) (avoids : span.avoids other) : ¬ other.Has (code + span.shift).toNat := by
  obtain ⟨least, greatest⟩ := has.image_mem
  obtain ⟨lower, upper, onStep⟩ := has
  rintro ⟨otherLower, otherUpper, otherStep⟩
  simp only [CaseSpan.avoids, Bool.or_eq_true, Bool.and_eq_true, decide_eq_true_eq,
    Nat.blt_eq] at avoids
  simp only [CaseSpan.legal, Bool.and_eq_true, decide_eq_true_eq] at legal
  obtain (below | above) | ⟨⟨two, single⟩, odd⟩ := avoids
  · omega
  · omega
  · rw [two] at otherStep
    have even : (code - span.first) % 2 = 0 := by
      rcases single with spread | only
      · rwa [spread] at onStep
      · omega
    have image : (code + span.shift).toNat = span.leastImage + (code - span.first) := by
      simp only [CaseSpan.leastImage]
      omega
    omega

/-- The capital that the spans leave out. -/
def dottedSpan : CaseSpan := ⟨0x130, 0x130, 1, 0⟩

theorem caseSpans_legal : ∀ span ∈ caseSpans, span.legal := by decide +kernel

theorem caseSpans_avoid :
    caseSpans.all (fun span => (dottedSpan :: caseSpans).all span.avoids) = true := by
  decide +kernel

/-- The small form of a code point is settled, unless it has a rule of its own. -/
theorem settled_lowerCode {char : Char} (dotless : char ≠ 'İ') :
    Settled (lowerCode caseSpans char.toNat) := by
  rcases lowerCode_cases caseSpans char.toNat with same | ⟨span, member, has, image⟩
  · rw [Settled, same]
    exact ⟨char.valid, fun dotted => dotless (Char.toNat_inj.mp dotted), same⟩
  · have legal := caseSpans_legal span member
    have apart := List.all_eq_true.mp (List.all_eq_true.mp caseSpans_avoid span member)
    obtain ⟨least, greatest⟩ := has.image_mem
    rw [Settled, image]
    refine ⟨?_, fun dotted => ?_, lowerCode_of_not_has fun other otherIn => ?_⟩
    · simp only [CaseSpan.legal, Bool.and_eq_true, Bool.or_eq_true, decide_eq_true_eq] at legal
      rw [Nat.isValidChar]
      omega
    · refine has.not_has_image legal (apart dottedSpan List.mem_cons_self) ?_
      rw [dotted]
      exact ⟨by decide, by decide, rfl⟩
    · exact has.not_has_image legal (apart other (List.mem_cons_of_mem _ otherIn))

/-! ### Characters -/

theorem Settled.small {code : Nat} (settled : Settled code) : Small (Char.ofNat code) := by
  obtain ⟨valid, dotless, same⟩ := settled
  have back : (Char.ofNat code).toNat = code := by
    rw [Char.ofNat, dif_pos valid]
    rfl
  refine ⟨fun sigma => ?_, ?_⟩
  · have capital : lowerCode caseSpans 'Σ'.toNat ≠ 'Σ'.toNat := by decide
    exact capital (by rw [← sigma, back, same])
  · rw [lowerChar, if_neg fun dotted => dotless (by rw [← back, dotted]), back, same]

theorem small_of_mem_lowerChar {char other : Char} (member : other ∈ lowerChar char) :
    Small other := by
  unfold lowerChar at member
  split at member
  · simp only [List.mem_cons, List.not_mem_nil, or_false] at member
    rcases member with rfl | rfl <;> decide
  · rename_i dotless
    obtain rfl := List.mem_singleton.mp member
    exact (settled_lowerCode dotless).small

theorem small_of_mem_lowerAfter {before chars : List Char} {char : Char}
    (member : char ∈ lowerAfter before chars) : Small char := by
  induction chars generalizing before with
  | nil => simp [lowerAfter] at member
  | cons first after ih =>
    rw [lowerAfter] at member
    rcases List.mem_append.mp member with here | later
    · split at here
      · obtain rfl := List.mem_singleton.mp here
        split <;> decide
      · exact small_of_mem_lowerChar here
    · exact ih later

theorem lowerAfter_of_small {before chars : List Char} (small : ∀ char ∈ chars, Small char) :
    lowerAfter before chars = chars := by
  induction chars generalizing before with
  | nil => rfl
  | cons first after ih =>
    obtain ⟨⟨notSigma, same⟩, later⟩ := List.forall_mem_cons.mp small
    rw [lowerAfter, if_neg notSigma, same, ih later]
    rfl

/-- A text is its own small form if all its characters are small. -/
theorem lower_eq_self_iff {text : String} :
    lower text = text ↔ ∀ char ∈ text.toList, Small char := by
  constructor
  · intro same char member
    rw [← same, lower, String.toList_ofList] at member
    exact small_of_mem_lowerAfter member
  · intro small
    rw [lower, lowerChars, lowerAfter_of_small small, String.ofList_toList]

theorem lower_eq_self_of_prefix {start text : String} (begins : start.toList <+: text.toList)
    (same : lower text = text) : lower start = start :=
  lower_eq_self_iff.mpr fun char member => lower_eq_self_iff.mp same char (begins.subset member)

/-- The small form of a text is its own small form. -/
theorem lower_lower (text : String) : lower (lower text) = lower text := by
  refine lower_eq_self_iff.mpr fun char member => ?_
  rw [lower, String.toList_ofList] at member
  exact small_of_mem_lowerAfter member

/-! ### Sizes -/

theorem byteLength_ofList (chars : List Char) :
    byteLength (String.ofList chars) = (chars.map Char.utf8Size).sum := by
  induction chars with
  | nil => rfl
  | cons char rest ih =>
    rw [← List.singleton_append, String.ofList_append]
    simp only [byteLength, String.utf8ByteSize_append] at ih ⊢
    simp [ih]

theorem length_le_byteLength (chars : List Char) :
    chars.length ≤ byteLength (String.ofList chars) := by
  rw [byteLength_ofList, ← List.length_map Char.utf8Size]
  exact List.length_le_sum_of_one_le _ fun size member => by
    obtain ⟨char, _, rfl⟩ := List.mem_map.mp member
    exact char.utf8Size_pos

theorem byteLength_lowerChar_le (char : Char) : byteLength (String.ofList (lowerChar char)) ≤ 4 := by
  unfold lowerChar
  split
  · decide
  · rw [byteLength_ofList]
    simpa using Char.utf8Size_le_four _

theorem byteLength_flatMap_lowerChar_le (chars : List Char) :
    byteLength (String.ofList (chars.flatMap lowerChar)) ≤ 4 * chars.length := by
  induction chars with
  | nil => simp [byteLength]
  | cons char rest ih =>
    have here := byteLength_lowerChar_le char
    rw [byteLength_ofList] at ih here ⊢
    simp only [List.flatMap_cons, List.map_append, List.sum_append, List.length_cons]
    omega

/-- A word is not long, though its letters may need more bytes than those of the text. -/
theorem byteLength_lt_of_mem_words {text word : String} (member : word ∈ words text) :
    byteLength word < 4 * wordLimit := by
  obtain ⟨run, runIn, rfl⟩ := List.mem_map.mp member
  have short := of_decide_eq_true (List.mem_filter.mp runIn).2
  calc
    byteLength (String.ofList (run.flatMap lowerChar)) ≤ 4 * run.length :=
      byteLength_flatMap_lowerChar_le run
    _ ≤ 4 * byteLength (String.ofList run) := Nat.mul_le_mul_left 4 (length_le_byteLength run)
    _ < 4 * wordLimit := Nat.mul_lt_mul_of_pos_left short (by decide)

end KeyedIndex.Text

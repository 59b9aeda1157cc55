import KeyedIndex.Number.Integer
import KeyedIndex.Number.Float
import KeyedIndex.Proofs.Success
import Mathlib

/-!
Characters of numerals. A text that is read as an integer or as a floating point number has letters
and digits, signs and points only (`isNumeral_of_read?`, `isNumeral_of_readFloat?`).
-/
namespace KeyedIndex.Number

variable {chars digits : List Char} {text : String}

/-- Whether a character can stand in a number: a letter from a to z, a digit, a sign or a point. -/
def isNumeral (char : Char) : Bool := char.isAlphanum || char ∈ ['+', '-', '.']

theorem isNumeral_of_isDigit {char : Char} (digit : char.isDigit) : isNumeral char := by
  simp [isNumeral, Char.isAlphanum, digit]

/-! ### Integers -/

theorem isDigit_of_readDigits {bound number result : Nat} {beyond : IntegerFault}
    (read : readDigits bound beyond number digits = .ok result) : ∀ char ∈ digits, char.isDigit := by
  fun_induction readDigits bound beyond number digits with
  | case1 number => simp
  | case2 number char rest isDigit next inside ih =>
    exact List.forall_mem_cons.mpr ⟨isDigit, ih read⟩
  | case3 => simp at read
  | case4 => simp at read

/-- What is read as an integer has digits and signs only. -/
theorem isDigit_or_sign_of_read? {interval : Interval} {number : Int}
    (read : interval.read? text = some number) :
    ∀ char ∈ text.toList, char.isDigit ∨ char = '+' ∨ char = '-' := by
  have unsigned {digits : List Char} (read : readUnsigned interval digits = .ok number) :
      ∀ char ∈ digits, char.isDigit ∨ char = '+' ∨ char = '-' := by
    obtain ⟨size, readSize, _⟩ := map_eq_ok.mp read
    exact fun char member => .inl (isDigit_of_readDigits readSize char member)
  replace read := toOption_eq_some.mp read
  unfold Interval.read at read
  split at read
  · simp at read
  · simp at read
  · simp at read
  · rename_i split
    rw [split]
    exact List.forall_mem_cons.mpr ⟨by decide, unsigned read⟩
  · rename_i split
    rw [split]
    split at read
    · obtain ⟨size, readSize, _⟩ := map_eq_ok.mp read
      refine List.forall_mem_cons.mpr ⟨by decide, fun char member => .inl ?_⟩
      exact isDigit_of_readDigits readSize char member
    · simp at read
  · exact unsigned read

theorem isNumeral_of_read? {interval : Interval} {number : Int}
    (read : interval.read? text = some number) : ∀ char ∈ text.toList, isNumeral char := by
  intro char member
  rcases isDigit_or_sign_of_read? read char member with digit | rfl | rfl
  · exact isNumeral_of_isDigit digit
  · rfl
  · rfl

/-! ### Floating point numbers -/

theorem isAlphanum_of_hexValue? {char : Char} {value : Nat} (found : hexValue? char = some value) :
    char.isAlphanum := by
  unfold hexValue? at found
  simp only [Char.le_def, UInt32.le_iff_toNat_le] at found
  simp only [Char.isAlphanum, Char.isAlpha, Char.isUpper, Char.isLower, Char.isDigit,
    Bool.or_eq_true, Bool.and_eq_true, decide_eq_true_eq, UInt32.le_iff_toNat_le, ge_iff_le]
  change (if 48 ≤ char.toNat ∧ char.toNat ≤ 57 then _ else
    if 97 ≤ char.toNat ∧ char.toNat ≤ 102 then _ else
    if 65 ≤ char.toNat ∧ char.toNat ≤ 70 then _ else none) = some value at found
  change ((65 ≤ char.toNat ∧ char.toNat ≤ 90) ∨ (97 ≤ char.toNat ∧ char.toNat ≤ 122)) ∨
    (48 ≤ char.toNat ∧ char.toNat ≤ 57)
  split at found
  · omega
  · split at found
    · omega
    · split at found
      · omega
      · contradiction

theorem isNumeral_of_inBase? {base number : Nat} (read : inBase? base digits = some number) :
    ∀ char ∈ digits, isNumeral char := by
  cases digits with
  | nil => simp
  | cons first rest =>
    refine keeps_foldlM (fun before _ => ∀ char ∈ before, isNumeral char) ?_ (by simp) read
    intro before number _ numerals char _ next appended
    obtain ⟨digit, filtered, _⟩ := Option.map_eq_some_iff.mp appended
    have found := (Option.filter_eq_some_iff.mp filtered).1
    refine List.forall_mem_append.mpr ⟨numerals, List.forall_mem_singleton.mpr ?_⟩
    simp [isNumeral, isAlphanum_of_hexValue? found]

theorem isNumeral_of_readExponent? {exponent : Int} (read : readExponent? chars = some exponent) :
    ∀ char ∈ chars, isNumeral char := by
  unfold readExponent? at read
  split at read
  · obtain ⟨size, digits, _⟩ := Option.map_eq_some_iff.mp read
    exact List.forall_mem_cons.mpr ⟨by decide, isNumeral_of_inBase? digits⟩
  · obtain ⟨size, digits, _⟩ := Option.map_eq_some_iff.mp read
    exact List.forall_mem_cons.mpr ⟨by decide, isNumeral_of_inBase? digits⟩
  · obtain ⟨size, digits, _⟩ := Option.map_eq_some_iff.mp read
    exact isNumeral_of_inBase? digits

/-- What stands before the rest are digits. -/
theorem isNumeral_of_spanDigits (rest : ∀ char ∈ (spanDigits chars).2, isNumeral char) :
    ∀ char ∈ chars, isNumeral char := by
  intro char member
  rw [← List.takeWhile_append_dropWhile (p := Char.isDigit) (l := chars)] at member
  rcases List.mem_append.mp member with digit | later
  · exact isNumeral_of_isDigit (List.mem_takeWhile_imp digit)
  · exact rest char later

/-- Behind the fraction there is nothing or an exponent. -/
theorem isNumeral_of_ending {whole fraction behind : List Char} {parts : List Char × List Char × Int}
    (read : (match behind with
      | [] => some (whole, fraction, 0)
      | 'e' :: more | 'E' :: more =>
        (readExponent? more).map (fun exponent => (whole, fraction, exponent))
      | _ => none) = some parts) : ∀ char ∈ behind, isNumeral char := by
  split at read
  · simp
  · obtain ⟨exponent, found, _⟩ := Option.map_eq_some_iff.mp read
    exact List.forall_mem_cons.mpr ⟨by decide, isNumeral_of_readExponent? found⟩
  · obtain ⟨exponent, found, _⟩ := Option.map_eq_some_iff.mp read
    exact List.forall_mem_cons.mpr ⟨by decide, isNumeral_of_readExponent? found⟩
  · contradiction

theorem isNumeral_of_readParts? {parts : List Char × List Char × Int}
    (read : readParts? chars = some parts) : ∀ char ∈ chars, isNumeral char := by
  refine isNumeral_of_spanDigits ?_
  unfold readParts? at read
  cases split : spanDigits chars with
  | mk whole rest =>
    rw [split] at read
    have behind := isNumeral_of_ending read
    split at behind
    · exact List.forall_mem_cons.mpr ⟨by decide, isNumeral_of_spanDigits behind⟩
    · exact behind

theorem isAlphanum_of_toLower {char : Char} (small : char.toLower.isAlphanum) : char.isAlphanum := by
  by_cases upper : char.isUpper
  · simp [Char.isAlphanum, Char.isAlpha, upper]
  · have same : char.toLower = char := dif_neg (by simpa [Char.isUpper] using upper)
    rwa [same] at small

theorem isNumeral_of_readSize? {number : Float} (read : readSize? chars = some number) :
    ∀ char ∈ chars, isNumeral char := by
  -- Infinity and what is not a number are written with letters.
  have word {name : String} (letters : name.toList.all Char.isAlphanum)
      (same : (String.ofList chars).toLower = name) : ∀ char ∈ chars, isNumeral char := by
    intro char member
    have inName : char.toLower ∈ name.toList := by
      rw [← same, String.toLower, String.toList_map, String.toList_ofList]
      exact List.mem_map_of_mem member
    have letter := List.all_eq_true.mp letters char.toLower inName
    simp [isNumeral, isAlphanum_of_toLower letter]
  unfold readSize? at read
  split at read
  · rename_i same
    exact word (by decide) same
  · rename_i same
    exact word (by decide) same
  · rename_i same
    exact word (by decide) same
  · obtain ⟨parts, partsRead, _⟩ := Option.bind_eq_some_iff.mp read
    exact isNumeral_of_readParts? partsRead

theorem isNumeral_of_readFloat? {number : Float} (read : readFloat? text = some number) :
    ∀ char ∈ text.toList, isNumeral char := by
  unfold readFloat? at read
  split at read
  · rename_i split
    obtain ⟨size, sizeRead, _⟩ := Option.map_eq_some_iff.mp read
    rw [split]
    exact List.forall_mem_cons.mpr ⟨by decide, isNumeral_of_readSize? sizeRead⟩
  · rename_i split
    rw [split]
    exact List.forall_mem_cons.mpr ⟨by decide, isNumeral_of_readSize? read⟩
  · exact isNumeral_of_readSize? read

end KeyedIndex.Number

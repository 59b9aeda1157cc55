import KeyedIndex.Number.Integer
import KeyedIndex.Proofs.Success

/-!
Integers and their decimal texts. A reader gives integers of its interval only
(`Interval.read?_has`), and the decimal text of an integer of the interval is read as that
integer (`Interval.read?_decimal`).
-/
namespace KeyedIndex.Number

/-- An interval that begins at zero or below and ends at zero or above. -/
structure Interval.HasZero (interval : Interval) : Prop where
  least : interval.least ≤ 0
  greatest : 0 ≤ interval.greatest

theorem Interval.has_iff {interval : Interval} {number : Int} :
    interval.has number = true ↔ interval.least ≤ number ∧ number ≤ interval.greatest := by
  simp [Interval.has]

theorem int64_hasZero : int64.HasZero := ⟨by decide, by decide⟩

theorem int32_has (number : Int32) : int32.has number.toInt := by
  have least := number.le_toInt
  have greatest := number.toInt_lt
  rw [Interval.has_iff]
  simp only [int32]
  omega

theorem le_ofDigitChars (digits : List Char) (number : Nat) :
    number ≤ Nat.ofDigitChars 10 digits number := by
  induction digits generalizing number with
  | nil => simp
  | cons char rest ih =>
    rw [Nat.ofDigitChars_cons]
    have bigger := ih (10 * number + (char.toNat - '0'.toNat))
    omega

/-- Digits that stand for a number within the bound are read as that number. -/
theorem readDigits_eq {bound : Nat} (beyond : IntegerFault) {digits : List Char} {number : Nat}
    (legal : ∀ char ∈ digits, char.isDigit)
    (small : Nat.ofDigitChars 10 digits number ≤ bound) :
    readDigits bound beyond number digits = .ok (Nat.ofDigitChars 10 digits number) := by
  induction digits generalizing number with
  | nil => simp [readDigits]
  | cons char rest ih =>
    rw [Nat.ofDigitChars_cons] at small ⊢
    have next := Nat.le_trans (le_ofDigitChars rest _) small
    have isDigit := legal char List.mem_cons_self
    rw [readDigits, if_pos isDigit]
    dsimp only
    rw [if_pos next]
    exact ih (fun char member => legal char (List.mem_cons_of_mem _ member)) small

/-- What is read does not exceed the bound. -/
theorem readDigits_le {bound : Nat} {beyond : IntegerFault} {digits : List Char} {number result : Nat}
    (start : number ≤ bound) (read : readDigits bound beyond number digits = .ok result) :
    result ≤ bound := by
  fun_induction readDigits bound beyond number digits with
  | case1 number => exact Except.ok.inj read ▸ start
  | case2 number char rest isDigit next inside ih => exact ih inside read
  | case3 => simp at read
  | case4 => simp at read

theorem readUnsigned_has {interval : Interval} (hasZero : interval.HasZero) {digits : List Char}
    {number : Int} (read : readUnsigned interval digits = .ok number) : interval.has number := by
  have lower := hasZero.least
  have upper := hasZero.greatest
  obtain ⟨size, readSize, rfl⟩ := map_eq_ok.mp read
  have bounded := readDigits_le (Nat.zero_le _) readSize
  rw [Interval.has_iff, Int.ofNat_eq_natCast]
  omega

/-- An integer that is read lies in the interval. -/
theorem Interval.read?_has {interval : Interval} (hasZero : interval.HasZero) {text : String}
    {number : Int} (read : interval.read? text = some number) : interval.has number := by
  have lower := hasZero.least
  have upper := hasZero.greatest
  replace read := toOption_eq_some.mp read
  unfold Interval.read at read
  split at read
  · simp at read
  · simp at read
  · simp at read
  · exact readUnsigned_has hasZero read
  · rename_i digits _ _
    split at read
    · obtain ⟨size, readSize, rfl⟩ := map_eq_ok.mp read
      have bounded := readDigits_le (Nat.zero_le _) readSize
      rw [Interval.has_iff, Int.ofNat_eq_natCast]
      omega
    · simp at read
  · exact readUnsigned_has hasZero read

/-! ### Decimal texts -/

theorem isDigit_of_mem_repr {number : Nat} {char : Char} (member : char ∈ number.repr.toList) :
    char.isDigit := by
  rw [Nat.toList_repr] at member
  exact Nat.isDigit_of_mem_toDigits (by decide) (by decide) member

theorem readDigits_repr {bound number : Nat} (beyond : IntegerFault) (small : number ≤ bound) :
    readDigits bound beyond 0 number.repr.toList = .ok number := by
  have value : Nat.ofDigitChars 10 number.repr.toList 0 = number := by
    rw [Nat.toList_repr, Nat.ofDigitChars_ten_toDigits]
  rw [readDigits_eq beyond (fun char member => isDigit_of_mem_repr member) (by rwa [value]), value]

theorem repr_ne_nil (number : Nat) : number.repr.toList ≠ [] := by
  rw [Nat.toList_repr]
  exact Nat.toDigits_ne_nil

/-- A text of digits has no sign. -/
theorem Interval.read_digits {interval : Interval} {text : String}
    (legal : ∀ char ∈ text.toList, char.isDigit) (present : text.toList ≠ []) :
    interval.read text = readUnsigned interval text.toList := by
  unfold Interval.read
  split
  · contradiction
  · rename_i single
    exact absurd (legal '+' (by simp [single])) (by decide)
  · rename_i single
    exact absurd (legal '-' (by simp [single])) (by decide)
  · rename_i start
    exact absurd (legal '+' (by simp [start])) (by decide)
  · rename_i start
    exact absurd (legal '-' (by simp [start])) (by decide)
  · rfl

theorem Interval.read_repr {interval : Interval} {number : Nat}
    (inside : (number : Int) ≤ interval.greatest) :
    interval.read number.repr = .ok (number : Int) := by
  have small : number ≤ interval.greatest.toNat := by omega
  rw [Interval.read_digits (fun char member => isDigit_of_mem_repr member) (repr_ne_nil number),
    readUnsigned, readDigits_repr .tooLarge small]
  rfl

/-- The decimal text of an integer of the interval is read as the integer. -/
theorem Interval.read?_decimal {interval : Interval} {number : Int}
    (inside : interval.has number) : interval.read? (decimal number) = some number := by
  obtain ⟨lower, upper⟩ := Interval.has_iff.mp inside
  refine toOption_eq_some.mpr ?_
  cases number with
  | ofNat size => exact Interval.read_repr upper
  | negSucc size =>
    have small : size + 1 ≤ interval.least.natAbs := by omega
    have digits := readDigits_repr .tooSmall small
    have text : (decimal (Int.negSucc size)).toList = '-' :: (size + 1).repr.toList := by
      simp [decimal, Int.repr]
    have present := repr_ne_nil (size + 1)
    have negative : interval.least < 0 := by omega
    rw [Interval.read, text]
    split
    · simp_all
    · simp_all
    · simp_all
    · simp_all
    · rename_i rest _ start
      obtain rfl := (List.cons.inj start).2
      rw [if_pos negative, digits]
      rfl
    · simp_all

/-! ### Texts of digits with leading zeros -/

theorem isDigit_of_mem_padded {width number : Nat} {char : Char}
    (member : char ∈ (padded width number).toList) : char.isDigit := by
  rw [padded, String.toList_ofList] at member
  rcases List.mem_append.mp member with zero | digit
  · rw [(List.mem_replicate.mp zero).2]
    decide
  · exact Nat.isDigit_of_mem_toDigits (by decide) (by decide) digit

theorem padded_ne_nil (width number : Nat) : (padded width number).toList ≠ [] := by
  rw [padded, String.toList_ofList]
  exact List.append_ne_nil_of_right_ne_nil _ Nat.toDigits_ne_nil

theorem ofDigitChars_padded (width number : Nat) :
    Nat.ofDigitChars 10 (padded width number).toList 0 = number := by
  have zeros (count : Nat) (digits : List Char) :
      Nat.ofDigitChars 10 (List.replicate count '0' ++ digits) 0 =
        Nat.ofDigitChars 10 digits 0 := by
    induction count with
    | zero => rfl
    | succ count ih => rwa [List.replicate_succ, List.cons_append, Nat.ofDigitChars_cons]
  rw [padded, String.toList_ofList, zeros, Nat.ofDigitChars_ten_toDigits]

/-- Leading zeros do not change the number that is read. -/
theorem Interval.read?_padded {interval : Interval} {number : Nat}
    (inside : (number : Int) ≤ interval.greatest) (width : Nat) :
    interval.read? (padded width number) = some (number : Int) := by
  have small : number ≤ interval.greatest.toNat := by omega
  have legal (char : Char) (member : char ∈ (padded width number).toList) : char.isDigit :=
    isDigit_of_mem_padded member
  have digits : readDigits interval.greatest.toNat .tooLarge 0 (padded width number).toList =
      .ok (Nat.ofDigitChars 10 (padded width number).toList 0) :=
    readDigits_eq .tooLarge legal (by rwa [ofDigitChars_padded])
  refine toOption_eq_some.mpr ?_
  rw [Interval.read_digits legal (padded_ne_nil _ _), readUnsigned, digits, ofDigitChars_padded]
  rfl

/-- Different integers have different decimal texts. -/
theorem decimal_injective {first second : Int} (same : decimal first = decimal second) :
    first = second := by
  let interval : Interval := ⟨min first second, max first second⟩
  have firstIn : interval.has first := by
    exact Interval.has_iff.mpr ⟨by dsimp only [interval]; omega, by dsimp only [interval]; omega⟩
  have secondIn : interval.has second := by
    exact Interval.has_iff.mpr ⟨by dsimp only [interval]; omega, by dsimp only [interval]; omega⟩
  have read := interval.read?_decimal firstIn
  rw [same, interval.read?_decimal secondIn] at read
  exact (Option.some.inj read).symm

end KeyedIndex.Number

import KeyedIndex.Time.Instant
import Mathlib

/-!
The range of dates with time and offset. A year has four digits, so the instants that
are read fit well into a word of 64 bits (`millis?_range`).
-/
namespace KeyedIndex.Time

theorem sum_monthLengths_le (year : Nat) : (monthLengths year).sum ≤ 366 := by
  unfold monthLengths
  split <;> decide

/-- The number of a day is near the start of 1970 if its year is not large. -/
theorem Date.number_range {date : Date} {limit : Nat} (year : date.year ≤ limit)
    (day : date.day ≤ 99) :
    -800000 ≤ date.number ∧ date.number ≤ 367 * limit + 1000 := by
  have past : ((monthLengths date.year).take (date.month - 1)).foldl (· + ·) 0 ≤ 366 := by
    rw [← List.sum_eq_foldl_nat]
    exact le_trans (List.Sublist.sum_le_sum (List.take_sublist _ _) (by simp))
      (sum_monthLengths_le date.year)
  have start : daysBeforeYear 1970 = 719528 := by decide
  have before : daysBeforeYear date.year ≤ 366 * limit + 4 := by
    unfold daysBeforeYear
    omega
  simp only [Date.number, start, Int.ofNat_eq_natCast]
  omega

namespace Rfc3339

/-- What a reader gives has a property. -/
def Reader.Gives {β : Type} (reader : Reader β) (property : β → Prop) : Prop :=
  ∀ rest value more, reader rest = some (value, more) → property value

variable {β γ : Type} {first : Reader β} {next : β → Reader γ}
  {property : β → Prop} {result : γ → Prop}

theorem Reader.Gives.bind (given : first.Gives property)
    (later : ∀ value, property value → (next value).Gives result) :
    Reader.Gives (first >>= next) result := by
  intro rest value more read
  obtain ⟨⟨middle, between⟩, readFirst, readNext⟩ := Option.bind_eq_some_iff.mp read
  exact later middle (given rest middle between readFirst) between value more readNext

theorem Reader.gives_pure {value : β} (holds : property value) :
    Reader.Gives (pure value) property := by
  intro rest given more read
  obtain ⟨rfl, _⟩ := Prod.mk.inj (Option.some.inj read)
  exact holds

theorem Reader.gives_failure : Reader.Gives (failure : Reader β) property := by
  intro rest given more read
  exact absurd read (by simp [failure, StateT.failure])

theorem Reader.gives_true : first.Gives (fun _ => True) := fun _ _ _ _ => trivial

theorem char_gives (test : Char → Bool) : (char test).Gives (fun found => test found) := by
  intro rest found more read
  unfold char at read
  split at read
  · split at read
    · obtain ⟨rfl, _⟩ := Prod.mk.inj (Option.some.inj read)
      assumption
    · contradiction
  · contradiction

theorem toNat_sub_le {char : Char} (isDigit : char.isDigit) : char.toNat - '0'.toNat ≤ 9 := by
  simp only [Char.isDigit, Bool.and_eq_true, decide_eq_true_eq] at isDigit
  have upper : char.toNat ≤ 57 := isDigit.2
  have zero : '0'.toNat = 48 := rfl
  omega

theorem digit_gives : digit.Gives (· ≤ 9) :=
  (char_gives Char.isDigit).bind fun _ isDigit => Reader.gives_pure (toNat_sub_le isDigit)

theorem twoDigits_gives : twoDigits.Gives (· ≤ 99) :=
  digit_gives.bind fun tens tensSmall => digit_gives.bind fun ones onesSmall =>
    Reader.gives_pure (by omega)

theorem date_gives : date.Gives (fun day => day.year ≤ 9999 ∧ day.day ≤ 99) :=
  twoDigits_gives.bind fun century centurySmall => twoDigits_gives.bind fun year yearSmall =>
    Reader.gives_true.bind fun _ _ => twoDigits_gives.bind fun month monthSmall =>
      Reader.gives_true.bind fun _ _ => twoDigits_gives.bind fun day daySmall =>
        Reader.gives_pure ⟨by dsimp only; omega, daySmall⟩

theorem foldl_digits_lt {digits : List Char} (legal : ∀ char ∈ digits, char.isDigit) (size : Nat) :
    digits.foldl (fun size char => 10 * size + (char.toNat - '0'.toNat)) size <
      10 ^ digits.length * (size + 1) := by
  induction digits generalizing size with
  | nil => simp
  | cons char rest ih =>
    have small := toNat_sub_le (legal char List.mem_cons_self)
    refine lt_of_lt_of_le (ih (fun char member => legal char (List.mem_cons_of_mem _ member)) _) ?_
    rw [List.length_cons, Nat.pow_succ, Nat.mul_assoc]
    exact Nat.mul_le_mul_left _ (by dsimp only; omega)

theorem fractionMillis_lt {digits : List Char} (legal : ∀ char ∈ digits, char.isDigit) :
    fractionMillis digits < 1000 := by
  have zeros : ∀ char ∈ (digits ++ ['0', '0', '0']).take 3, char.isDigit := by
    intro char member
    rcases List.mem_append.mp (List.mem_of_mem_take member) with inside | zero
    · exact legal char inside
    · have isZero : char = '0' := by simpa using zero
      simp [isZero]
  refine lt_of_lt_of_le (foldl_digits_lt zeros 0) ?_
  have three : ((digits ++ ['0', '0', '0']).take 3).length = 3 := by simp
  rw [three]
  decide

theorem fraction_gives : fraction.Gives (· < 1000) := by
  intro rest millis more read
  unfold fraction at read
  split at read
  · dsimp only at read
    split at read
    · contradiction
    · obtain ⟨rfl, _⟩ := Prod.mk.inj (Option.some.inj read)
      exact fractionMillis_lt fun char member => List.mem_takeWhile_imp member
  · obtain ⟨rfl, _⟩ := Prod.mk.inj (Option.some.inj read)
    decide

theorem timeOfDay_gives : timeOfDay.Gives (· < 100000000) := by
  refine Reader.gives_true.bind fun hour _ => Reader.gives_true.bind fun _ _ =>
    Reader.gives_true.bind fun minute _ => Reader.gives_true.bind fun _ _ =>
    Reader.gives_true.bind fun second _ => fraction_gives.bind fun millis small => ?_
  split
  · exact Reader.gives_pure (by omega)
  · exact Reader.gives_failure

theorem offset_gives : offset.Gives (fun ahead => -1440 < ahead ∧ ahead < 1440) := by
  refine Reader.gives_true.bind fun sign _ => ?_
  split
  · exact Reader.gives_pure (by decide)
  · refine Reader.gives_true.bind fun hours _ => Reader.gives_true.bind fun _ _ =>
      Reader.gives_true.bind fun minutes _ => ?_
    split
    · exact Reader.gives_pure (by split <;> omega)
    · exact Reader.gives_failure

theorem instant_gives : instant.Gives (fun millis => -2 ^ 63 ≤ millis ∧ millis < 2 ^ 63) := by
  refine date_gives.bind fun day ⟨year, dayOfMonth⟩ => Reader.gives_true.bind fun _ _ =>
    timeOfDay_gives.bind fun millis small => offset_gives.bind fun ahead range => ?_
  have near := Date.number_range year dayOfMonth
  split
  · exact Reader.gives_pure (by omega)
  · exact Reader.gives_failure

/-- What is read fits into a word of 64 bits. -/
theorem millis?_range {text : String} {millis : Int} (read : millis? text = some millis) :
    -2 ^ 63 ≤ millis ∧ millis < 2 ^ 63 := by
  unfold millis? at read
  split at read
  · rename_i found whole
    obtain rfl := Option.some.inj read
    exact instant_gives _ _ _ whole
  · contradiction

end Rfc3339

end KeyedIndex.Time

import KeyedIndex.Json.Printer
import KeyedIndex.Json.Token
import KeyedIndex.Proofs.Number.Integer

/-!
Scalars of JSON as they are written and scanned. A quoted text is scanned as its characters,
whatever they are (`scan_writeText`), and the decimal text of an integer that a word holds is
scanned as the integer, if it is followed by what may follow a value (`scan_decimal`).
-/
namespace KeyedIndex.Json

/-! ### Quoted texts -/

variable (soFar : TextSoFar) (rest : List Char)

theorem scanText_quote : scanText soFar ('"' :: rest) = (soFar.close, rest) := by
  rw [scanText]

theorem scanText_escape {char meant : Char} (known : escape? char = some meant) :
    scanText soFar ('\\' :: char :: rest) = scanText (soFar.escaped meant) rest := by
  have apart : char ≠ 'u' := by
    rintro rfl
    contradiction
  rw [scanText]
  · simp only [known]
  · exact fun _ _ _ _ _ same _ => apart same
  · exact fun same => apart same

theorem scanText_unit {first second third fourth : Char} {unit : Nat}
    (known : codeUnit? first second third fourth = some unit) (small : unit < 0x20) :
    scanText soFar ('\\' :: 'u' :: first :: second :: third :: fourth :: rest) =
      scanText (soFar.escaped (Char.ofNat unit)) rest := by
  have noTrailing : isTrailing unit = false := by
    simp only [isTrailing, Bool.and_eq_false_iff, decide_eq_false_iff_not]
    omega
  have noLeading : isLeading unit = false := by
    simp only [isLeading, Bool.and_eq_false_iff, decide_eq_false_iff_not]
    omega
  rw [scanText]
  simp only [known, noTrailing, noLeading, Bool.false_eq_true, if_false]

/-- Whether a character is written as itself. -/
def isPlain (char : Char) : Bool := char ≠ '"' && char ≠ '\\' && 0x20 ≤ char.toNat

theorem scanText_plain {char : Char} (plain : isPlain char = true) :
    scanText soFar (char :: rest) = scanText (soFar.push char) rest := by
  simp only [isPlain, Bool.and_eq_true, decide_eq_true_eq] at plain
  obtain ⟨⟨noQuote, noBackslash⟩, noControl⟩ := plain
  rw [scanText]
  · rw [if_neg (by omega)]
  · exact noQuote
  · exact fun same => absurd same noBackslash
  · exact fun _ _ _ _ _ same => absurd same noBackslash
  · exact fun _ same => absurd same noBackslash
  · exact fun _ _ same => absurd same noBackslash

/-- The four digits of a control are read as the control. -/
theorem codeUnit?_control {unit : Nat} (small : unit < 0x20) :
    codeUnit? '0' '0' (hexDigit (unit / 16)) (hexDigit (unit % 16)) = some unit := by
  have all : ∀ unit < 0x20,
      codeUnit? '0' '0' (hexDigit (unit / 16)) (hexDigit (unit % 16)) = some unit := by decide
  exact all unit small

/-- Take a character as it is written. -/
def TextSoFar.take (soFar : TextSoFar) (char : Char) : TextSoFar :=
  if isPlain char then soFar.push char else soFar.escaped char

/-- A character is scanned as it was written. -/
theorem scanText_writeChar (char : Char) :
    scanText soFar (writeChar char ++ rest) = scanText (soFar.take char) rest := by
  unfold writeChar
  split
  · exact scanText_escape soFar rest (show escape? '"' = some '"' from rfl)
  · exact scanText_escape soFar rest (show escape? '\\' = some '\\' from rfl)
  · exact scanText_escape soFar rest (show escape? 'b' = some '\x08' from rfl)
  · exact scanText_escape soFar rest (show escape? 'f' = some '\x0c' from rfl)
  · exact scanText_escape soFar rest (show escape? 'n' = some '\n' from rfl)
  · exact scanText_escape soFar rest (show escape? 'r' = some '\r' from rfl)
  · exact scanText_escape soFar rest (show escape? 't' = some '\t' from rfl)
  · rename_i noQuote noBackslash _ _ _ _ _
    split
    · rename_i control
      have escaped : isPlain char = false := by simp [isPlain, control]
      rw [TextSoFar.take, escaped, if_neg Bool.false_ne_true]
      have unit := scanText_unit soFar rest (codeUnit?_control control) control
      rwa [Char.ofNat_toNat] at unit
    · rename_i noControl
      have plain : isPlain char = true := by
        simp only [isPlain, Bool.and_eq_true, decide_eq_true_eq]
        exact ⟨⟨noQuote, noBackslash⟩, by omega⟩
      rw [TextSoFar.take, if_pos plain]
      exact scanText_plain soFar rest plain

theorem scanText_write (content : List Char) :
    scanText soFar (content.flatMap writeChar ++ '"' :: rest) =
      ((content.foldl TextSoFar.take soFar).close, rest) := by
  induction content generalizing soFar with
  | nil => exact scanText_quote soFar rest
  | cons char more ih =>
    rw [List.flatMap_cons, List.append_assoc, scanText_writeChar, ih, List.foldl_cons]

theorem foldl_take (content : List Char) :
    content.foldl TextSoFar.take soFar = ⟨content.reverse ++ soFar.chars,
      soFar.plain && content.all isPlain, soFar.fault⟩ := by
  induction content generalizing soFar with
  | nil => simp
  | cons char more ih =>
    rw [List.foldl_cons, ih, TextSoFar.take]
    cases plain : isPlain char <;>
      simp [plain, TextSoFar.push, TextSoFar.escaped]

/-- A text that was written between quotes, as a scalar. -/
def textScalar (content : String) : Scalar := .text content (content.toList.all isPlain)

/-- A text that was written is scanned as the text. -/
theorem scan_writeText (content : String) :
    scan '"' (content.toList.flatMap writeChar ++ '"' :: rest) =
      (.scalar (textScalar content), rest) := by
  change scanText ⟨[], true, none⟩ _ = _
  rw [scanText_write, foldl_take]
  simp [TextSoFar.close, textScalar]

/-! ### Integers -/

/-- What may follow a value: a comma, a closing bracket, a line end or nothing. -/
def Delimited (rest : List Char) : Prop := ∀ char ∈ rest.head?, char ∈ [',', ']', '\x7d', '\n']

variable {rest}

theorem Delimited.cons {char : Char} (delimits : char ∈ [',', ']', '\x7d', '\n']) :
    Delimited (char :: rest) := by
  intro other member
  obtain rfl := Option.some.inj member
  exact delimits

theorem Delimited.takeWhile (delimited : Delimited rest) : rest.takeWhile Char.isDigit = [] := by
  cases rest with
  | nil => rfl
  | cons char more =>
    have noDigit : char.isDigit = false := by
      have inside := delimited char rfl
      simp only [List.mem_cons, List.not_mem_nil, or_false] at inside
      rcases inside with rfl | rfl | rfl | rfl <;> decide
    rw [List.takeWhile_cons_of_neg (by simp [noDigit])]

theorem Delimited.dropWhile (delimited : Delimited rest) : rest.dropWhile Char.isDigit = rest := by
  have whole := List.takeWhile_append_dropWhile (p := Char.isDigit) (l := rest)
  rwa [delimited.takeWhile, List.nil_append] at whole

/-- Neither a fraction nor an exponent follows. -/
theorem Delimited.scanFraction (delimited : Delimited rest) (parts : NumeralParts) :
    scanFraction parts rest = (numberToken parts, rest) := by
  cases rest with
  | nil => rfl
  | cons char more =>
    have inside := delimited char rfl
    simp only [List.mem_cons, List.not_mem_nil, or_false] at inside
    rcases inside with rfl | rfl | rfl | rfl <;> rfl

/-- A positive number has no leading zero. -/
theorem toDigits_ne_zero_cons {number : Nat} (positive : 0 < number) (more : List Char) :
    Nat.toDigits 10 number ≠ '0' :: more := by
  induction number using Nat.strongRecOn generalizing more with
  | ind number ih =>
    by_cases small : number < 10
    · rw [Nat.toDigits_of_lt_base small]
      intro same
      have zero := Nat.digitChar_eq_zero.mp (List.cons.inj same).1
      omega
    · rw [Nat.toDigits_of_base_le (by decide) (by omega)]
      obtain ⟨first, others, digits⟩ := List.exists_cons_of_ne_nil
        (Nat.toDigits_ne_nil (n := number / 10) (b := 10))
      rw [digits, List.cons_append]
      intro same
      exact ih (number / 10) (by omega) (by omega) others (by rw [digits, (List.cons.inj same).1])

/-- The digits of a number are scanned up to what follows the number. -/
theorem scanNumber_toDigits (negative : Bool) (lead : List Char) {digits : List Char} {size : Nat}
    (all : lead ++ digits = Nat.toDigits 10 size) (delimited : Delimited rest) :
    scanNumber negative lead (digits ++ rest) =
      (numberToken ⟨negative, Nat.toDigits 10 size, [], none⟩, rest) := by
  have legal : ∀ char ∈ digits, Char.isDigit char = true := by
    intro char member
    have inside : char ∈ Nat.toDigits 10 size := all ▸ List.mem_append_right lead member
    exact Nat.isDigit_of_mem_toDigits (by decide) (by decide) inside
  rw [scanNumber, List.takeWhile_append_of_pos legal, delimited.takeWhile, List.append_nil, all,
    List.dropWhile_append_of_pos legal, delimited.dropWhile]
  split
  · rename_i none
    exact absurd none Nat.toDigits_ne_nil
  · rename_i next more leading
    by_cases zero : size = 0
    · have single : Nat.toDigits 10 0 = ['0'] := rfl
      rw [zero, single] at leading
      simp at leading
    · exact absurd leading (toDigits_ne_zero_cons (by omega) _)
  · exact delimited.scanFraction _

/-- The integers that a reader does not take for floating point numbers. -/
def words : Number.Interval := ⟨Number.int64.least, Number.nat64.greatest⟩

theorem numeral?_toDigits {size : Nat} (small : size ≤ greatestWord) :
    numeral? ⟨false, Nat.toDigits 10 size, [], none⟩ = some (.integer size) := by
  have value : (Nat.toDigits 10 size).foldl (fun size char => 10 * size + digitValue char) 0 =
      size := Nat.ofDigitChars_ten_toDigits
  simp [numeral?, value, small]

theorem numeral?_neg_toDigits {size : Nat} (positive : 0 < size) (small : size ≤ Nat.pow 2 63) :
    numeral? ⟨true, Nat.toDigits 10 size, [], none⟩ = some (.integer (-size)) := by
  have value : (Nat.toDigits 10 size).foldl (fun size char => 10 * size + digitValue char) 0 =
      size := Nat.ofDigitChars_ten_toDigits
  have word : size ≤ greatestWord := Nat.le_trans small (by decide)
  simp only [numeral?, value]
  simp [word, positive, small]

theorem scan_of_isDigit {char : Char} (digit : char.isDigit = true) (rest : List Char) :
    scan char rest = scanNumber false [char] rest := by
  unfold scan
  split
  all_goals first | contradiction | skip
  exact if_pos digit

/-- The text of an integer is scanned as the integer. -/
theorem scan_decimal {number : Int} (fits : words.has number = true) (delimited : Delimited rest) :
    ∃ first more, (Number.decimal number).toList = first :: more ∧ isSpace first = false ∧
      scan first (more ++ rest) = (.scalar (.number (.integer number)), rest) := by
  obtain ⟨lower, upper⟩ := Number.Interval.has_iff.mp fits
  cases number with
  | ofNat size =>
    have small : size ≤ greatestWord := by
      have greatest : words.greatest = (greatestWord : Int) := rfl
      exact Int.ofNat_le.mp (greatest ▸ upper)
    obtain ⟨first, more, digits⟩ := List.exists_cons_of_ne_nil
      (Nat.toDigits_ne_nil (n := size) (b := 10))
    have digit : first.isDigit = true := by
      refine Nat.isDigit_of_mem_toDigits (b := 10) (n := size) (by decide) (by decide) ?_
      rw [digits]
      exact List.mem_cons_self
    refine ⟨first, more, ?_, ?_, ?_⟩
    · rw [← digits, ← Nat.toList_repr]
      rfl
    · refine Bool.eq_false_iff.mpr fun space => ?_
      simp only [isSpace, Bool.or_eq_true, decide_eq_true_eq] at space
      rcases space with ((rfl | rfl) | rfl) | rfl <;> contradiction
    · rw [scan_of_isDigit digit, scanNumber_toDigits false [first] digits.symm delimited,
        numberToken, numeral?_toDigits small]
      rfl
  | negSucc size =>
    have small : size + 1 ≤ Nat.pow 2 63 := by
      have least : words.least = -((Nat.pow 2 63 : Nat) : Int) := rfl
      rw [least, Int.negSucc_eq] at lower
      omega
    refine ⟨'-', Nat.toDigits 10 (size + 1), ?_, rfl, ?_⟩
    · simp [Number.decimal, Int.repr, Nat.toList_repr]
    · change scanNumber true [] _ = _
      have digits := scanNumber_toDigits true [] (List.nil_append (Nat.toDigits 10 (size + 1))) delimited
      rw [digits, numberToken, numeral?_neg_toDigits (Nat.succ_pos size) small]
      rfl

end KeyedIndex.Json

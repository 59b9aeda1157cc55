import KeyedIndex.Json.Doc
import KeyedIndex.Number.Integer

/-!
JSON values as texts. The members of a value are written in order, and all characters of a text
as themselves, but for quotes, backslashes and controls. A value is written without blanks or on
several lines (`Style`).

In the source, `to_string` and `to_vec_pretty`, which `save_state` writes.
-/
namespace KeyedIndex.Json

/-- A JSON value whose numbers are integers. -/
inductive Value where
  | null
  | bool (value : Bool)
  | integer (number : Int)
  | text (content : String)
  | array (items : List Value)
  | object (members : List (String × Value))

/-- A digit in base sixteen, in small letters. -/
def hexDigit (digit : Nat) : Char := Nat.digitChar digit

/-- How one character is written between quotes. -/
def writeChar (char : Char) : List Char :=
  match char with
  | '"' => ['\\', '"']
  | '\\' => ['\\', '\\']
  | '\x08' => ['\\', 'b']
  | '\x0c' => ['\\', 'f']
  | '\n' => ['\\', 'n']
  | '\r' => ['\\', 'r']
  | '\t' => ['\\', 't']
  | _ =>
    if char.toNat < 0x20 then
      ['\\', 'u', '0', '0', hexDigit (char.toNat / 16), hexDigit (char.toNat % 16)]
    else [char]

/-- A text between quotes. -/
def writeText (content : String) : List Char :=
  '"' :: content.toList.flatMap writeChar ++ ['"']

/-- How the parts of an array or object are set apart: not at all, or on lines of their own, each
    indented by two blanks for every array or object around it. -/
inductive Style where
  | compact
  | lines (depth : Nat)

/-- The style of the parts. -/
def Style.inner : Style → Style
  | .compact => .compact
  | .lines depth => .lines (depth + 1)

/-- What stands before a part, or before the bracket at the end. -/
def Style.gap : Style → List Char
  | .compact => []
  | .lines depth => '\n' :: List.replicate (2 * depth) ' '

/-- What stands between a name and its value. -/
def Style.colon : Style → List Char
  | .compact => [':']
  | .lines _ => [':', ' ']

mutual
/-- The characters of a value. An array or object without parts stays on its line. -/
def Value.write (style : Style) : Value → List Char
  | .null => "null".toList
  | .bool value => (if value then "true" else "false").toList
  | .integer number => (Number.decimal number).toList
  | .text content => writeText content
  | .array [] => "[]".toList
  | .array (item :: items) =>
    '[' :: style.inner.gap ++ item.write style.inner ++ writeItems style items
  | .object [] => ['\x7b', '\x7d']
  | .object ((name, value) :: members) =>
    '\x7b' :: style.inner.gap ++ writeText name ++ style.colon ++ value.write style.inner
      ++ writeMembers style members

/-- The further items of an array and its end. -/
def writeItems (style : Style) : List Value → List Char
  | [] => style.gap ++ [']']
  | item :: items => ',' :: style.inner.gap ++ item.write style.inner ++ writeItems style items

/-- The further members of an object and its end. -/
def writeMembers (style : Style) : List (String × Value) → List Char
  | [] => style.gap ++ ['\x7d']
  | (name, value) :: members =>
    ',' :: style.inner.gap ++ writeText name ++ style.colon ++ value.write style.inner
      ++ writeMembers style members
end

/-- The text of a value without blanks. -/
def Value.print (value : Value) : String := String.ofList (value.write .compact)

/-- The text of a value on several lines. -/
def Value.printLines (value : Value) : String := String.ofList (value.write (.lines 0))

end KeyedIndex.Json

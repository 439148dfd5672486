import RecordBytes.Floating.Shortest
import RecordBytes.Text.Quoted
import RecordBytes.Value.Basic

/-!
# Values as shown to a reader

A value is shown as the tag of its kind with its content in parentheses.  Text is quoted, floating-point
numbers have their shortest decimal, and a decimal shows its sign, its scale and the words of its
magnitude.

Main definitions:

- `Kind.shown`: the content of a value.
- `Value.shown`: the whole value.
-/

namespace RecordBytes

/-- The words of a natural number in base two to the 64, least significant first. -/
def words (number : Nat) : List Nat :=
  if number = 0 then [] else number % 0x1_0000_0000_0000_0000 :: words (number / 0x1_0000_0000_0000_0000)
termination_by number

/-- Items between square brackets. -/
def bracketed (items : List String) : String :=
  "[" ++ String.intercalate ", " items ++ "]"

/-- The word for the sign of an integer. -/
def signWord (number : Int) : String :=
  if number < 0 then "Minus" else if number = 0 then "NoSign" else "Plus"

/-- A decimal by its parts. -/
def Decimal.shown (decimal : Decimal) : String :=
  let digits := bracketed ((words decimal.unscaled.natAbs).map toString)
  s!"BigDecimal(sign={signWord decimal.unscaled}, scale={decimal.scale.toInt}, digits={digits})"

/-- The content of a value. -/
def Kind.shown : (kind : Kind) → kind.Content → String
  | .bool, content => if content then "true" else "false"
  | .char, content => Text.Quoted.char content
  | .signed _, content => toString content.toInt
  | .unsigned _, content => toString content.toNat
  | .float _, content => Floating.text content
  | .text, content => Text.Quoted.text content
  | .bytes, content => bracketed (content.map fun byte => toString byte.toNat)
  | .bigint, content => toString content
  | .decimal, content => content.shown
  | .lob, content => s!"LobLocator({content.toNat})"

/-- A value under the tag of its kind. -/
def Value.shown : Value → String
  | .null => "Null"
  | .of kind content => kind.tag ++ "(" ++ kind.shown content ++ ")"

end RecordBytes

import PlatformClient.Decimal.FloatText
import PlatformClient.Json.Basic
import PlatformClient.Text.IntegerText
import PlatformClient.Text.Quoted

/-!
# Values in log lines

Log lines and error messages show values in a notation of their own: `None`, `True` and `False`,
quoted texts, brackets around items and braces around members. A text by itself is shown without
quotes.

## Main definitions

* `Json.literal`: a value inside other values
* `Json.display`: a value by itself
-/

namespace PlatformClient.Json

mutual

/-- A value inside other values. -/
def literal : Json → List Char
  | .null => "None".toList
  | .bool true => "True".toList
  | .bool false => "False".toList
  | .integer n => (Text.decimal n).toList
  | .float x => Decimal.floatText Decimal.displayNames x
  | .string s => Text.quoted s.toList
  | .array items => '[' :: literalItems items ++ [']']
  | .object members => '{' :: literalMembers members ++ ['}']

/-- Items, separated. -/
def literalItems : List Json → List Char
  | [] => []
  | [item] => literal item
  | item :: next :: rest => literal item ++ ',' :: ' ' :: literalItems (next :: rest)

/-- Members, separated. -/
def literalMembers : List (String × Json) → List Char
  | [] => []
  | [(name, value)] => Text.quoted name.toList ++ ':' :: ' ' :: literal value
  | (name, value) :: next :: rest =>
    Text.quoted name.toList ++ ':' :: ' ' :: literal value ++ ',' :: ' ' ::
      literalMembers (next :: rest)

end

/-- A value by itself: a text as it is, all else as inside other values. -/
def display : Json → String
  | .string s => s
  | value => String.ofList value.literal

end PlatformClient.Json

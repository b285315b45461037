import PlatformClient.Octets.Utf8
import PlatformClient.Text.CodePoint
import PlatformClient.Text.Split

/-!
# Query strings

Named values behind the question mark of an address. Letters, digits and the four marks `_`, `.`,
`-` and `~` stand for themselves, a space is a plus sign, and every other octet of the text is
written as a percent sign and two capital hexadecimal digits. A surrogate has no octets, so a value
that holds one is refused.

## Main definitions

* `Query.encode`: a text inside a query
* `Query.write`: named values as a query
* `Query.ofPoints`: the same for values of any code points
* `Query.decode?`, `Query.read?`: the readers of both
* `Query.stripped`: an address up to its first question mark
-/

namespace PlatformClient.Query

/-- Whether an octet stands for itself. -/
def isPlain (octet : UInt8) : Bool :=
  let c := Char.ofNat octet.toNat
  c.isAlphanum || c == '_' || c == '.' || c == '-' || c == '~'

/-- An octet inside a query. -/
def encodeOctet (octet : UInt8) : List Char :=
  if isPlain octet then [Char.ofNat octet.toNat]
  else if octet == 0x20 then ['+']
  else ['%', Text.upperHexDigit (octet.toNat / 16), Text.upperHexDigit (octet.toNat % 16)]

/-- A text inside a query. -/
def encode (s : List Char) : List Char := (Utf8.encode s).flatMap encodeOctet

/-- Values with their names, in order. -/
abbrev Parameters := List (String × String)

/-- A named value inside a query. -/
def writeParameter (parameter : String × String) : List Char :=
  encode parameter.1.toList ++ '=' :: encode parameter.2.toList

/-- Named values as a query, joined by ampersands. -/
def write (parameters : Parameters) : List Char :=
  ['&'].intercalate (parameters.map writeParameter)

/-- A named value of any code points, unless a surrogate is among them. -/
def parameterOfPoints (parameter : String × List CodePoint) :
    Except Text.SurrogateFault (String × String) :=
  (Text.characters parameter.2).map fun value => (parameter.1, String.ofList value)

/-- Named values of any code points as a query. The first value with a surrogate is reported. -/
def ofPoints (parameters : List (String × List CodePoint)) :
    Except Text.SurrogateFault (List Char) :=
  (parameters.mapM parameterOfPoints).map write

/-- The octets written in a part of a query, unless a percent sign lacks its digits. -/
def octets? : List Char → Option Octets
  | [] => some []
  | '%' :: high :: low :: rest => do
    let octet := 16 * (← Text.hexValue? high) + (← Text.hexValue? low)
    return UInt8.ofNat octet :: (← octets? rest)
  | c :: rest =>
    if c == '%' then none
    else (octets? rest).map (Utf8.encodeChar (if c == '+' then ' ' else c) ++ ·)

/-- The text written in a part of a query. -/
def decode? (s : List Char) : Option (List Char) := octets? s >>= Utf8.decode?

/-- The named value written in a piece of a query: it is cut at its first equals sign. -/
def readParameter? (piece : List Char) : Option (String × String) := do
  let (name, value) := Text.cut '=' piece
  return (String.ofList (← decode? name), String.ofList (← decode? (value.getD [])))

/-- The named values of a query. -/
def read? (query : List Char) : Option Parameters :=
  (Text.splitOn '&' query).mapM readParameter?

/-- An address up to its first question mark. -/
def stripped (address : String) : String :=
  String.ofList (address.toList.takeWhile (· != '?'))

end PlatformClient.Query

import PlatformClient.Charset.Punycode
import PlatformClient.Octets.Utf8
import PlatformClient.Text.Digit

/-!
# Character sets

A character set reads octets as a text. Ill-formed parts never keep it from doing so, but a few sets
refuse octets altogether.

## Main definitions

* `Charset`: how octets are read
* `Charset.Refusal`: why a set refuses octets
* `Charset.ofScan`, `Charset.ofPage`, `Charset.refusingIf`, `Charset.refusing`: sets that read all
  octets, some or none
* `Charset.text`: the text of octets
* `Charset.strictText?`: the text of well-formed octets
-/

namespace PlatformClient

namespace Charset

/-- Why a set refuses octets. -/
inductive Refusal where
  /-- The set cannot go on behind ill-formed parts, and does not begin either. -/
  | unforgiving
  /-- The set reads nothing. -/
  | undefined
  /-- The octets ask for what the set has no rule for. -/
  | noRule
  /-- An octet that has to be ASCII is not. -/
  | notAscii (misfit : Punycode.Misfit)
deriving DecidableEq

/-- The wording of a refusal by the set of a name. -/
def Refusal.message (name : String) : Refusal → String
  | unforgiving =>
    "decoding with '" ++ name ++
      "' codec failed (UnicodeError: Unsupported error handling replace)"
  | undefined => "decoding with '" ++ name ++ "' codec failed (UnicodeError: undefined encoding)"
  | noRule => "decoding with '" ++ name ++ "' codec failed (RuntimeError: internal codec error)"
  | notAscii misfit =>
    "'ascii' codec can't decode byte 0x" ++
      String.ofList (Text.hexDigits 2 misfit.octet.toNat) ++ " in position " ++
      misfit.position.repr ++ ": ordinal not in range(128)"

end Charset

/-- How octets are read: the marks of them, unless the set refuses them. -/
structure Charset where
  read : Octets → Except Charset.Refusal (List Charset.Mark)

namespace Charset

/-- The set that reads all octets in a way. -/
def ofScan (scan : Octets → List Mark) : Charset := ⟨fun octets => .ok (scan octets)⟩

/-- The set of a page. -/
def ofPage (page : Page) : Charset := ofScan page.scan

/-- The set that reads octets in a way, but refuses those with a property. -/
def refusingIf (property : Octets → Bool) (refusal : Refusal) (scan : Octets → List Mark) :
    Charset :=
  ⟨fun octets => if property octets then .error refusal else .ok (scan octets)⟩

/-- The set that refuses all octets. -/
def refusing (refusal : Refusal) : Charset := ⟨fun _ => .error refusal⟩

/-- The text of octets, with U+FFFD for each ill-formed part. -/
def text (charset : Charset) (octets : Octets) : Except Refusal (List Char) :=
  (charset.read octets).map replacing

/-- The text of well-formed octets. -/
def strictText? (charset : Charset) (octets : Octets) : Option (List Char) :=
  (charset.read octets).toOption.bind strict?

/-- Octets without the byte order mark of UTF-8 in front. -/
def withoutMark : Octets → Octets
  | 0xEF :: 0xBB :: 0xBF :: rest => rest
  | octets => octets

/-- UTF-8. -/
def utf8 : Charset := ofScan Utf8.scan

/-- UTF-8 with an optional byte order mark in front. -/
def utf8Marked : Charset := ofScan fun octets => Utf8.scan (withoutMark octets)

/-- Punycode. -/
def punycode : Charset := ⟨fun octets => (Punycode.scan octets).mapError .notAscii⟩

end Charset

end PlatformClient

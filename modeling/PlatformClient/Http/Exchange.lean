import PlatformClient.Charset.Guess
import PlatformClient.Charset.Name
import PlatformClient.ContentType.OfName
import PlatformClient.Fault
import PlatformClient.Text.Replace

/-!
# Exchanges over HTTP

A request leaves the client and has an outcome: a response, a fault of the network, or nothing at
all. Every request is recorded together with how often its response has been closed.

## Main definitions

* `Http.Request`, `Http.Response`, `Http.Outcome`, `Http.Call`: the parts of an exchange
* `Http.Response.header?`: a header of a response
* `Http.CharsetFault`: why the body of a response has no text
* `Http.Response.charset?`: the name of the character set of a response
* `Http.Response.text`: the text of a response
* `Http.pieces`: the pieces in which a response arrives
* `Http.Delivery`: how a response arrives

## Main results

* `Http.flatten_cutInto`: the pieces together are the body
-/

namespace PlatformClient.Http

/-- The methods of requests. -/
inductive Method where
  | get
  | post
deriving DecidableEq

/-- A request. -/
structure Request where
  method : Method
  url : String
  timeout : Int
  /-- Whether the body of the response is fetched piece by piece. -/
  stream : Bool
  contentType : Option String
  body : Option Octets
deriving DecidableEq

/-- A request that fetches an address. -/
def Request.get (url : String) (timeout : Int) (stream : Bool) : Request :=
  ⟨.get, url, timeout, stream, none, none⟩

/-- A request that sends a body to an address. -/
def Request.post (url : String) (timeout : Int) (contentType : String) (body : Octets) : Request :=
  ⟨.post, url, timeout, false, some contentType, some body⟩

/-- A response. -/
structure Response where
  status : Int
  reason : Option String
  headers : List (String × String)
  body : Octets
deriving DecidableEq

/-- Why the body of a response has no text. -/
inductive CharsetFault where
  /-- The name of the character set contains a null character. -/
  | nullCharacter
  /-- The character set of a name refuses the body. -/
  | refused (name : String) (refusal : Charset.Refusal)
deriving DecidableEq

/-- The wording of a fault with a character set. -/
def CharsetFault.message : CharsetFault → String
  | nullCharacter => "embedded null character"
  | refused name refusal => refusal.message name

/-- What becomes of a request. -/
inductive Outcome where
  /-- There is no response, and no fault either. -/
  | absent
  | failed (fault : Fault)
  | response (response : Response)

/-- A recorded request, and how often its response has been closed if there was one. -/
structure Call where
  request : Request
  closed : Option Nat
deriving DecidableEq

namespace Response

/-- The header of a name, whatever the case of its letters; the last of several counts. -/
def header? (response : Response) (name : String) : Option String :=
  let lower (s : String) : List Char := Text.lowercase s.toList
  (response.headers.reverse.find? fun header => lower header.1 == lower name).map (·.2)

/-- The content type of a response as its header has it. -/
def contentType? (response : Response) : Option String := response.header? "Content-Type"

/-- Whether a character is removed at the ends of a parameter's name and value. -/
def isWrapping (c : Char) : Bool := c == '"' || c == '\'' || c == ' '

/-- The parameter written in a piece of a content type. -/
def parameter? (piece : List Char) : Option (List Char × List Char) :=
  match Text.cut '=' (Text.trim piece) with
  | (name, some value) =>
    some (Text.lowercase (Text.trimBy isWrapping name), Text.trimBy isWrapping value)
  | (_, none) => none

/-- The name of the character set that a content type names or implies. The last parameter for it
counts. -/
def charsetOf? (contentType : List Char) : Option (List Char) :=
  match Text.splitOn ';' contentType with
  | [] => none
  | essence :: parameters =>
    match (parameters.filterMap parameter?).reverse.find? (·.1 == "charset".toList) with
    | some (_, name) => some name
    | none =>
      if Text.occursIn "text".toList essence then some "ISO-8859-1".toList
      else if Text.occursIn "application/json".toList essence then some "utf-8".toList
      else none

/-- The name of the character set of a response. -/
def charset? (response : Response) : Option (List Char) :=
  response.contentType?.bind fun type => charsetOf? type.toList

/-- The text of octets whose character set has a name. Octets of an unknown set are UTF-8. -/
def textNamed (name : List Char) (body : Octets) : Except CharsetFault (List Char) :=
  if name.contains '\x00' then .error .nullCharacter
  else
    ((Charset.named? (String.ofList name)).getD .utf8).text body
      |>.mapError (.refused (String.ofList name))

/-- The text of octets of the set that they seem to have, if they are well-formed there. -/
def textGuessed? (body : Octets) : Option (List Char) :=
  (Charset.guess? body).bind (·.strictText? body)

/-- The text of octets whose character set has no name: of the set that they seem to have, or else
UTF-8 with an optional mark in front. -/
def textUnnamed (body : Octets) : List Char :=
  (textGuessed? body).getD (Charset.replacing (Utf8.scan (Charset.withoutMark body)))

/-- The text of a response. An empty body is empty whatever its set, and an empty name of a set is
only heeded if the set cannot be guessed. -/
def text (response : Response) : Except CharsetFault (List Char) :=
  match response.charset? with
  | none => .ok (textUnnamed response.body)
  | some name =>
    if response.body.isEmpty then .ok []
    else
      match if name.isEmpty then textGuessed? response.body else none with
      | some guessed => .ok guessed
      | none => textNamed name response.body

end Response

/-! ## Pieces -/

/-- Octets cut into pieces of a size, behind pieces cut before. The fuel bounds the count of
pieces. -/
def cutOn (size : Nat) : Nat → List Octets → Octets → List Octets
  | 0, done, _ => done.reverse
  | fuel + 1, done, octets =>
    if octets.isEmpty then done.reverse
    else cutOn size fuel (octets.take size :: done) (octets.drop size)

/-- Octets cut into pieces of a size, the last one possibly shorter. There are no more pieces than
octets. -/
def cutInto (size : Nat) (octets : Octets) : List Octets :=
  if size = 0 then [] else cutOn size octets.length [] octets

theorem flatten_cutOn {size : Nat} (h : 0 < size) {fuel : Nat} {octets : Octets}
    (hfuel : octets.length ≤ fuel) (done : List Octets) :
    (cutOn size fuel done octets).flatten = done.reverse.flatten ++ octets := by
  induction fuel generalizing octets done with
  | zero =>
    have : octets = [] := List.length_eq_zero_iff.1 (by omega)
    simp [cutOn, this]
  | succ fuel ih =>
    cases octets with
    | nil => simp [cutOn]
    | cons octet rest =>
      rw [cutOn, if_neg (by simp), ih]
      · simp
      · simp only [List.length_drop, List.length_cons] at hfuel ⊢
        omega

/-- The pieces together are the body. -/
theorem flatten_cutInto {size : Nat} (h : 0 < size) (octets : Octets) :
    (cutInto size octets).flatten = octets := by
  rw [cutInto, if_neg (by omega), flatten_cutOn h (Nat.le_refl _)]
  rfl

/-- The pieces in which a body arrives: of the given size; none if that is zero; and the whole body
at once if it is negative. -/
def pieces (size : Int) (body : Octets) : List Octets :=
  if body.isEmpty then [] else if size < 0 then [body] else cutInto size.toNat body

/-- How bodies arrive: the pieces for a size, and the fault that ends the arrival early, if any. -/
abbrev Delivery := Int → Octets → List Octets × Option Fault

/-- Bodies arrive completely, in pieces of the size asked for. -/
def Delivery.complete : Delivery := fun size body => (pieces size body, none)

end PlatformClient.Http

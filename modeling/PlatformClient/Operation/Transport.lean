import PlatformClient.Endpoint
import PlatformClient.Operation.Basic

/-!
# Requests and answers

Documents and files are sent to the platform and its answers are read. Only the status 200 is
accepted. An answer carries an envelope, and an error reported there is the failure of the
operation. Addresses are logged without their query.

## Main definitions

* `Operation.getJson`, `Operation.postJson`, `Operation.postMultipart`: requests that are answered
  by a document
* `Operation.getStream`, `Operation.readStream`: a request that is answered by a stream of octets,
  and the document that such a stream may carry
* `Envelope`, `Envelope.document`: what every answer carries, and the kind of document that does
* `Operation.requireSuccess`, `Operation.decode`: what the platform's documents mean
-/

namespace PlatformClient

/-! ## Envelopes -/

/-- An error code with its text. -/
structure Envelope where
  code : Int
  text : String
deriving DecidableEq

namespace Envelope

/-- The form of envelopes. -/
def form : Record.Form :=
  .record "ErrorEnvelope"
    [(.withDefault "errcode" (.integer 0), .integer), (.withDefault "errmsg" (.text ""), .text)]
    false

/-- The documents that carry an envelope. -/
def document : Record.Document Envelope :=
  ⟨form, fun datum => ⟨(datum.field "errcode").asInteger, (datum.field "errmsg").asText⟩⟩

/-- Whether no error is reported. -/
def isSuccess (envelope : Envelope) : Bool := envelope.code == 0

end Envelope

namespace Operation

variable {τ α : Type}

/-- The only status that is accepted. -/
def acceptedStatus : Int := 200

/-- A response with the accepted status; there must be one. -/
def checkStatus : Option Arrival → Operation τ Arrival
  | none => do
    let text ← say .error "No API response received"
    raise (.outside .request text)
  | some arrival => do
    if arrival.response.status ≠ acceptedStatus then
      let status ← numeral arrival.response.status
      let _ ← say .error ("  Status is not '200': HTTP_" ++ status ++ "!")
      raise (.unexpectedStatus arrival.response.status arrival.response.reason)
    return arrival

/-- The document that a response carries. -/
def readJson (arrival : Arrival) : Operation τ Json := do
  let text ← ofExcept .charset arrival.response.text
  ofExcept .unreadable (Json.read (← surroundings).reading text)

/-- The size of the pieces in which a document is fetched from a stream. -/
def documentPiece : Int := 10240

/-- The document that a stream carries. All its pieces are fetched before it is read. -/
def readStream (arrival : Arrival) : Operation τ Json := do
  let (pieces, fault) := (← surroundings).delivery documentPiece arrival.response.body
  match fault with
  | some fault => raise fault
  | none => readJson { arrival with response.body := pieces.flatten }

/-- A request is sent, and the document that answers it is read. -/
def fetchJson (request : Http.Request) : Operation τ Json := do
  let arrival ← checkStatus (← exchange request)
  readJson arrival

/-- The document at an address. -/
def getJson (url : String) : Operation τ Json := do
  let _ ← say .trace ("GET " ++ Query.stripped url)
  fetchJson (.get url (← settings).timeout false)

/-- The stream of octets at an address. It is closed here if its status is not accepted; else the
caller has to close it. -/
def getStream (url : String) : Operation τ Arrival := do
  let _ ← say .trace ("GET (stream) " ++ Query.stripped url)
  let arrival? ← exchange (.get url (← settings).timeout true)
  onFailure Failure.isUnexpectedStatus (fun world => arrival?.elim world (closeResponse · world))
    (checkStatus arrival?)

/-- The content type of documents that are sent. -/
def documentType : String := "application/json; charset=utf-8"

/-- The document that answers another one. -/
def postJson (url : String) (payload : Json) : Operation τ Json := do
  let _ ← say .trace ("POST " ++ Query.stripped url)
  let text ← ofExcept .unwritable (payload.text? (← surroundings).writing)
  fetchJson (.post url (← settings).timeout documentType (Utf8.encode text.toList))

/-- The document that answers a multipart body. -/
def postMultipart (url : String) (body : Octets) (contentType : String) : Operation τ Json := do
  let _ ← say .trace ("POST (multipart) " ++ Query.stripped url)
  fetchJson (.post url (← settings).timeout contentType body)

/-- What a document of some kind means. -/
def readAs (kind : Record.Document α) (document : Json) : Operation τ α :=
  ofExcept (Failure.ofRefusal document) (kind.read document)

/-- The envelope of an answer, which must not report an error. -/
def requireSuccess (document : Json) : Operation τ Envelope := do
  let envelope ← readAs Envelope.document document
  if !envelope.isSuccess then
    let code ← numeral envelope.code
    let _ ← say .warn ("Platform API error " ++ code ++ ": " ++ envelope.text)
    raise (.api envelope.code envelope.text)
  return envelope

/-- What an answer without an error means. -/
def decode (kind : Record.Document α) (document : Json) : Operation τ α := do
  let _ ← requireSuccess document
  readAs kind document

/-- The address of an endpoint. -/
def addressOf (endpoint : Endpoint) : Operation τ String := do
  return endpoint.address (← settings)

end Operation

end PlatformClient

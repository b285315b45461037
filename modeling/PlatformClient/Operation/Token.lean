import PlatformClient.Operation.Transport
import PlatformClient.Secret

/-!
# Access tokens

Every operation of the platform needs an access token. The kept token is used while it is fresh;
else a new one is requested with the credentials of the configuration.

## Main definitions

* `Operation.requireToken`: the token for an operation
* `Operation.invalidateToken`: the kept token is dropped
-/

namespace PlatformClient.Operation

variable {τ : Type} [Instant τ]

/-- A token is requested. The credentials must be configured. -/
def fetchGrant : Operation τ Grant := do
  let current ← settings
  if current.appId.isEmpty || current.appSecret.isEmpty then
    let text ← say .error "App ID and app secret must be configured"
    raise (.ofKind .configuration ErrorCode.missingAppCredentials.number text)
  let document ← getJson (← addressOf (.accessToken current.appId current.appSecret))
  decode Grant.document document

/-- Another cache is kept. -/
def setCache (cache : TokenCache τ) : Operation τ Unit :=
  change fun world => { world with client.cache := cache }

/-- The mask of a token. -/
def maskedToken (token : String) : String := String.ofList (Secret.mask token.toList)

/-- A granted token is kept. It is in the cache before its expiry is known, and it expires as many
seconds after the response as its lifetime exceeds the margin. -/
def keepGrant (grant : Grant) : Operation τ Unit := do
  let current ← surroundings
  let cache ← observe (·.client.cache)
  let life := TokenCache.usefulLife current.settings.tokenMargin grant
  setCache (cache.withToken grant.token)
  match Instant.after? current.answered life with
  | none => fail .lifetimeTooLong
  | some expiry =>
    setCache (.store grant.token expiry)
    let _ ← say .debug
      ("Fetched access token " ++ maskedToken grant.token ++ ", valid for " ++ life.repr ++ "s")

/-- The token for an operation. -/
def requireToken : Operation τ String := do
  let current ← surroundings
  match (← observe (·.client.cache)).usable? current.started with
  | some token => return token
  | none =>
    let _ ← say .trace "Access token is missing or expired, fetching a new one"
    let grant ← fetchGrant
    keepGrant grant
    return grant.token

/-- The kept token is dropped. -/
def invalidateToken : Operation τ Unit := do
  let _ ← say .trace "Invalidating the cached access token"
  setCache .empty

end PlatformClient.Operation

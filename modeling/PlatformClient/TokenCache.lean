import PlatformClient.Decimal.Binary64
import PlatformClient.Record.Document

/-!
# The token cache

A granted access token is kept and used again until shortly before it expires. Time is read from a
clock; its instants can be compared and moved on by whole seconds.

## Main definitions

* `Grant`: a token with its lifetime
* `Grant.document`: the kind of document that grants one
* `Instant`: instants of a clock
* `TokenCache`: the kept token and the instant of its expiry
* `TokenCache.usable?`: the kept token, if it may be used at an instant
* `TokenCache.usefulLife`: the seconds for which a granted token is kept
* `TokenCache.store`: the cache after a grant
-/

namespace PlatformClient

/-! ## Grants -/

/-- A token with its lifetime in seconds. -/
structure Grant where
  token : String
  lifetime : Int
deriving DecidableEq

namespace Grant

/-- The form of grants. -/
def form : Record.Form :=
  .record "AccessToken"
    [(.required "access_token", .secret), (.required "expires_in", .integer)] false

/-- The documents that grant a token. -/
def document : Record.Document Grant :=
  ⟨form, fun datum => ⟨(datum.field "access_token").asText, (datum.field "expires_in").asInteger⟩⟩

end Grant

/-! ## Instants -/

/-- Instants of a clock. -/
class Instant (τ : Type) where
  /-- The instant that stands for no expiry. -/
  origin : τ
  /-- Whether one instant comes before another. -/
  before : τ → τ → Bool
  /-- The instant after a number of seconds, unless the clock cannot reach it. -/
  after? : τ → Nat → Option τ

/-- Instants as floating point numbers of seconds. -/
instance : Instant Float where
  origin := 0
  before a b := a < b
  after? a seconds := (Binary64.ofNat? seconds).map (a + ·)

/-- Instants as whole numbers of seconds. -/
instance : Instant Nat where
  origin := 0
  before a b := a < b
  after? a seconds := some (a + seconds)

/-- The kept token, if there is one, and the instant of its expiry. -/
structure TokenCache (τ : Type) where
  token? : Option String
  expiry : τ
deriving DecidableEq

namespace TokenCache

variable {τ : Type} [Instant τ]

/-- A cache without a token. -/
def empty : TokenCache τ := ⟨none, Instant.origin⟩

/-- The kept token, if it may be used at an instant. -/
def usable? (cache : TokenCache τ) (now : τ) : Option String :=
  if Instant.before now cache.expiry then cache.token? else none

/-- The seconds for which a granted token is kept: its lifetime less the margin, if any remain. -/
def usefulLife (margin : Int) (grant : Grant) : Nat := (grant.lifetime - margin).toNat

/-- The cache with another token, and the expiry as it was. -/
def withToken (token : String) (cache : TokenCache τ) : TokenCache τ :=
  { cache with token? := some token }

/-- The cache after a token has been granted until some instant. -/
def store (token : String) (expiry : τ) : TokenCache τ := ⟨some token, expiry⟩

/-- An empty cache has no token at any instant. -/
@[simp] theorem usable?_empty (now : τ) : (empty : TokenCache τ).usable? now = none := by
  unfold usable? empty
  split <;> rfl

end TokenCache

end PlatformClient

import PlatformClient.Operation.Token
import PlatformClient.Proofs.Operation.Requests

/-!
# How a token is obtained

Asking for a token has one of five endings: the kept token is still usable; the credentials are
missing; the one request for a token brings no grant; it brings a grant whose expiry the clock
cannot reach; or it brings a grant, which is kept. Each ending fixes the result and, up to lines of
the log, the world.

## Main definitions

* `Http.Outcome.document?`: the document that an outcome of a request carries
* `Http.Outcome.Delivers`: what an outcome means as a document of some kind
* `Settings.LacksCredentials`, `Settings.tokenRequest`: the conditions and the request for a token
* `Operation.Obtained`: the endings of asking for a token
* `Operation.tokenRequests`: the requests of asking for a token
* `Surroundings.trial`: surroundings for trials

## Main results

* `fetchJson_eq_ok_iff`: a document is read exactly if the outcome carries it
* `fetchGrant_of_credentials`: a grant is fetched exactly if the outcome delivers it
* `requireToken_obtained`: asking for a token ends in one of the five ways
* `requests_requireToken`: what is sent then
* `requireToken_eq_ok_iff`: the tokens that are obtained
-/

namespace PlatformClient

variable {τ α : Type}

namespace Http

/-- The document that a response carries, whatever its status. -/
def Response.document? (response : Response) (reading : Json.Reading) : Option Json :=
  match response.text with
  | .error _ => none
  | .ok text => (Json.read reading text).toOption

/-- The document that an outcome of a request carries: that of a response with the accepted
status. -/
def Outcome.document? (outcome : Outcome) (reading : Json.Reading) : Option Json :=
  match outcome with
  | .response answer =>
    if answer.status = Operation.acceptedStatus then answer.document? reading else none
  | _ => none

/-- An outcome carries a document that reports success and has the meaning `a`. -/
def Outcome.Delivers (outcome : Outcome) (reading : Json.Reading) (kind : Record.Document α)
    (a : α) : Prop :=
  ∃ document, outcome.document? reading = some document ∧ Envelope.ReportsSuccess document ∧
    kind.read document = .ok a

theorem Outcome.Delivers.unique {outcome : Outcome} {reading : Json.Reading}
    {kind : Record.Document α} {a b : α} (ha : outcome.Delivers reading kind a)
    (hb : outcome.Delivers reading kind b) : a = b := by
  obtain ⟨document, hdocument, -, hread⟩ := ha
  obtain ⟨other, hother, -, hread'⟩ := hb
  obtain rfl : document = other := Option.some.inj (hdocument.symm.trans hother)
  exact Except.ok.inj (hread.symm.trans hread')

end Http

namespace Settings

/-- One of the credentials is not configured. -/
def LacksCredentials (settings : Settings) : Prop :=
  settings.appId = "" ∨ settings.appSecret = ""

instance (settings : Settings) : Decidable settings.LacksCredentials :=
  inferInstanceAs (Decidable (_ ∨ _))

theorem lacksCredentials_iff (settings : Settings) :
    (settings.appId.isEmpty || settings.appSecret.isEmpty) = true ↔
      settings.LacksCredentials := by
  simp [LacksCredentials]

/-- The request for a token. -/
def tokenRequest (settings : Settings) : Http.Request :=
  .get ((Endpoint.accessToken settings.appId settings.appSecret).address settings)
    settings.timeout false

end Settings

/-- The world with another token cache. -/
def World.withCache (cache : TokenCache τ) (world : World τ) : World τ :=
  { world with client.cache := cache }

@[simp] theorem World.requests_withCache (cache : TokenCache τ) (world : World τ) :
    (world.withCache cache).requests = world.requests := rfl

theorem World.withCache_logged (cache : TokenCache τ) (lines : List Emission) (world : World τ) :
    (world.logged lines).withCache cache = (world.withCache cache).logged lines := rfl

namespace Operation

/-! ## Documents that answer requests -/

theorem checkStatus_eq_ok_iff {arrival? : Option Arrival} {surroundings : Surroundings τ}
    {world after : World τ} {arrival : Arrival} :
    checkStatus arrival? surroundings world = (.ok arrival, after) ↔
      arrival? = some arrival ∧ arrival.response.status = acceptedStatus ∧ after = world := by
  cases arrival? with
  | none =>
    constructor
    · intro h
      obtain ⟨text, last, -, h⟩ := bind_eq_ok_iff.mp (congrArg Prod.fst h)
      cases h
    · rintro ⟨⟨⟩, -⟩
  | some found =>
    by_cases hstatus : found.response.status = acceptedStatus
    · rw [checkStatus_of_eq hstatus]
      constructor
      · intro h
        cases h
        exact ⟨rfl, hstatus, rfl⟩
      · rintro ⟨⟨⟩, -, rfl⟩
        rfl
    · rw [checkStatus_of_ne hstatus]
      constructor
      · intro h
        obtain ⟨shown, between, -, h⟩ := bind_eq_ok_iff.mp (congrArg Prod.fst h)
        obtain ⟨text, last, -, h⟩ := bind_eq_ok_iff.mp h
        cases h
      · rintro ⟨⟨⟩, h, -⟩
        exact absurd h hstatus

theorem readJson_eq_ok_iff {arrival : Arrival} {surroundings : Surroundings τ} {world : World τ}
    {document : Json} :
    (readJson arrival surroundings world).1 = .ok document ↔
      arrival.response.document? surroundings.reading = some document := by
  unfold readJson Http.Response.document?
  cases arrival.response.text with
  | error fault => simp [ofExcept]
  | ok text =>
    cases hread : Json.read surroundings.reading text with
    | error fault => simp [ofExcept, Operation.surroundings, bind_apply, hread, Except.toOption]
    | ok found => simp [ofExcept, Operation.surroundings, bind_apply, hread, Except.toOption]

/-- The response to an outcome, if it has the accepted status. -/
theorem fetchJson_eq_ok_iff {request : Http.Request} {surroundings : Surroundings τ}
    {world : World τ} {document : Json} :
    (fetchJson request surroundings world).1 = .ok document ↔
      (world.next surroundings).document? surroundings.reading = some document := by
  unfold fetchJson
  rw [bind_apply, exchange_apply]
  cases world.next surroundings with
  | absent =>
    simp only [received, Http.Outcome.document?]
    constructor
    · intro h
      obtain ⟨arrival, after, hcheck, -⟩ := bind_eq_ok_iff.mp h
      cases (checkStatus_eq_ok_iff.mp hcheck).1
    · rintro ⟨⟩
  | failed fault => simp [received, Http.Outcome.document?]
  | response response =>
    simp only [received, Http.Outcome.document?]
    rw [bind_eq_ok_iff]
    constructor
    · rintro ⟨arrival, after, hcheck, hread⟩
      obtain ⟨harrival, hstatus, -⟩ := checkStatus_eq_ok_iff.mp hcheck
      cases harrival
      rw [if_pos hstatus]
      exact readJson_eq_ok_iff.mp hread
    · intro h
      split at h
      · rename_i hstatus
        exact ⟨_, _, checkStatus_eq_ok_iff.mpr ⟨rfl, hstatus, rfl⟩, readJson_eq_ok_iff.mpr h⟩
      · cases h

theorem getJson_eq_ok_iff {url : String} {surroundings : Surroundings τ} {world : World τ}
    {document : Json} :
    (getJson url surroundings world).1 = .ok document ↔
      (world.next surroundings).document? surroundings.reading = some document :=
  fetchJson_eq_ok_iff

/-! ## Grants -/

theorem fetchGrant_of_lacks {surroundings : Surroundings τ}
    (h : surroundings.settings.LacksCredentials) (world : World τ) :
    ∃ text lines, fetchGrant surroundings world =
      (.error (.fault (.ofKind .configuration ErrorCode.missingAppCredentials.number text)),
        world.logged lines) := by
  have hlacks := (Settings.lacksCredentials_iff surroundings.settings).mpr h
  obtain ⟨text, lines, hsay⟩ := exists_say_apply .error "App ID and app secret must be configured"
    surroundings world
  refine ⟨text, lines, ?_⟩
  unfold fetchGrant
  simp only [bind_apply, settings, if_pos hlacks, hsay]
  rfl

/-- With credentials, the document that answers the request for a token is read as a grant. -/
theorem fetchGrant_apply_of_credentials {surroundings : Surroundings τ}
    (h : ¬ surroundings.settings.LacksCredentials) (world : World τ) :
    fetchGrant surroundings world =
      (getJson ((Endpoint.accessToken surroundings.settings.appId
          surroundings.settings.appSecret).address surroundings.settings) >>=
        decode Grant.document) surroundings world := by
  have hneg := mt (Settings.lacksCredentials_iff surroundings.settings).mp h
  unfold fetchGrant
  simp only [bind_apply, settings, if_neg hneg, addressOf, pure_apply]

/-- With credentials, a grant is fetched exactly if the outcome of the request delivers it. -/
theorem fetchGrant_of_credentials {surroundings : Surroundings τ}
    (h : ¬ surroundings.settings.LacksCredentials) (world : World τ) :
    (∀ grant, (fetchGrant surroundings world).1 = .ok grant ↔
      (world.next surroundings).Delivers surroundings.reading Grant.document grant) ∧
    ∃ lines, (fetchGrant surroundings world).2 =
      (world.sent surroundings.settings.tokenRequest (world.next surroundings)).logged lines := by
  rw [fetchGrant_apply_of_credentials h]
  constructor
  · intro grant
    rw [bind_eq_ok_iff]
    constructor
    · rintro ⟨document, after, hdocument, hgrant⟩
      have hcarried := getJson_eq_ok_iff.mp (congrArg Prod.fst hdocument)
      exact ⟨document, hcarried, decode_eq_ok_iff.mp hgrant⟩
    · rintro ⟨document, hcarried, hgrant⟩
      exact ⟨document, _, Prod.ext (getJson_eq_ok_iff.mpr hcarried) rfl,
        decode_eq_ok_iff.mpr hgrant⟩
  · obtain ⟨first, hfirst⟩ := getJson_world ((Endpoint.accessToken surroundings.settings.appId
      surroundings.settings.appSecret).address surroundings.settings) surroundings world
    rw [bind_apply]
    rcases hresult : getJson _ surroundings world with ⟨failure | document, after⟩
    · rw [hresult] at hfirst
      exact ⟨first, hfirst⟩
    · rw [hresult] at hfirst
      obtain ⟨second, hsecond⟩ := logsOnly_decode Grant.document document surroundings after
      refine ⟨first ++ second, ?_⟩
      rw [← World.logged_logged]
      exact hsecond.trans (congrArg (World.logged second) hfirst)

/-- A grant whose expiry the clock cannot reach is half kept: its token, with the old expiry. -/
theorem keepGrant_of_endless {grant : Grant} {surroundings : Surroundings τ} [Instant τ]
    (h : Instant.after? surroundings.answered
      (TokenCache.usefulLife surroundings.settings.tokenMargin grant) = none) (world : World τ) :
    keepGrant grant surroundings world =
      (.error .lifetimeTooLong, world.withCache (world.client.cache.withToken grant.token)) := by
  unfold keepGrant
  simp only [bind_apply, Operation.surroundings, observe, setCache, change, h]
  rfl

/-- A grant whose expiry is known is kept. -/
theorem keepGrant_of_reachable {grant : Grant} {surroundings : Surroundings τ} [Instant τ]
    {expiry : τ} (h : Instant.after? surroundings.answered
      (TokenCache.usefulLife surroundings.settings.tokenMargin grant) = some expiry)
    (world : World τ) :
    ∃ lines, keepGrant grant surroundings world =
      (.ok (), (world.withCache (.store grant.token expiry)).logged lines) := by
  obtain ⟨shown, lines, hsay⟩ := exists_say_apply .debug
    ("Fetched access token " ++ maskedToken grant.token ++ ", valid for " ++
      (TokenCache.usefulLife surroundings.settings.tokenMargin grant).repr ++ "s")
    surroundings (world.withCache (.store grant.token expiry))
  refine ⟨lines, ?_⟩
  unfold keepGrant
  simp only [bind_apply, Operation.surroundings, observe, setCache, change, h]
  unfold World.withCache at hsay
  rw [hsay]
  rfl

/-! ## The endings of asking for a token -/

/-- The endings of asking for a token: the result, and the world apart from further lines of the
log. -/
inductive Obtained [Instant τ] (surroundings : Surroundings τ) (world : World τ) :
    Except Failure String → World τ → Prop
  /-- The kept token is still usable. -/
  | kept {token : String}
      (husable : world.client.cache.usable? surroundings.started = some token) :
      Obtained surroundings world (.ok token) world
  /-- The credentials are missing. -/
  | unconfigured {text : String}
      (hstale : world.client.cache.usable? surroundings.started = none)
      (hlacks : surroundings.settings.LacksCredentials) :
      Obtained surroundings world
        (.error (.fault (.ofKind .configuration ErrorCode.missingAppCredentials.number text)))
        world
  /-- The request brings no grant. -/
  | refused {failure : Failure}
      (hstale : world.client.cache.usable? surroundings.started = none)
      (hcredentials : ¬ surroundings.settings.LacksCredentials)
      (hnone : ∀ grant,
        ¬ (world.next surroundings).Delivers surroundings.reading Grant.document grant) :
      Obtained surroundings world (.error failure)
        (world.sent surroundings.settings.tokenRequest (world.next surroundings))
  /-- The request brings a grant that lives too long for the clock. -/
  | endless {grant : Grant}
      (hstale : world.client.cache.usable? surroundings.started = none)
      (hcredentials : ¬ surroundings.settings.LacksCredentials)
      (hgrant : (world.next surroundings).Delivers surroundings.reading Grant.document grant)
      (hlife : Instant.after? surroundings.answered
        (TokenCache.usefulLife surroundings.settings.tokenMargin grant) = none) :
      Obtained surroundings world (.error .lifetimeTooLong)
        ((world.sent surroundings.settings.tokenRequest (world.next surroundings)).withCache
          (world.client.cache.withToken grant.token))
  /-- The request brings a grant, which is kept. -/
  | granted {grant : Grant} {expiry : τ}
      (hstale : world.client.cache.usable? surroundings.started = none)
      (hcredentials : ¬ surroundings.settings.LacksCredentials)
      (hgrant : (world.next surroundings).Delivers surroundings.reading Grant.document grant)
      (hlife : Instant.after? surroundings.answered
        (TokenCache.usefulLife surroundings.settings.tokenMargin grant) = some expiry) :
      Obtained surroundings world (.ok grant.token)
        ((world.sent surroundings.settings.tokenRequest (world.next surroundings)).withCache
          (.store grant.token expiry))

variable [Instant τ]

theorem requireToken_of_usable {surroundings : Surroundings τ} {world : World τ} {token : String}
    (h : world.client.cache.usable? surroundings.started = some token) :
    requireToken surroundings world = (.ok token, world) := by
  unfold requireToken
  simp only [bind_apply, Operation.surroundings, observe, h]
  rfl

/-- Without a usable token a new one is fetched and kept. -/
theorem requireToken_of_stale {surroundings : Surroundings τ} {world : World τ}
    (h : world.client.cache.usable? surroundings.started = none) :
    ∃ lines, requireToken surroundings world =
      (do
        let grant ← fetchGrant
        keepGrant grant
        return grant.token) surroundings (world.logged lines) := by
  obtain ⟨shown, lines, hsay⟩ := exists_say_apply .trace
    "Access token is missing or expired, fetching a new one" surroundings world
  refine ⟨lines, ?_⟩
  unfold requireToken
  simp only [bind_apply, Operation.surroundings, observe, h, hsay]

/-- Asking for a token ends in one of the five ways. -/
theorem requireToken_obtained (surroundings : Surroundings τ) (world : World τ) :
    ∃ after lines, Obtained surroundings world (requireToken surroundings world).1 after ∧
      (requireToken surroundings world).2 = after.logged lines := by
  cases husable : world.client.cache.usable? surroundings.started with
  | some token =>
    rw [requireToken_of_usable husable]
    exact ⟨world, [], .kept husable, (World.logged_nil world).symm⟩
  | none =>
    obtain ⟨first, hstale⟩ := requireToken_of_stale husable
    rw [hstale]
    by_cases hlacks : surroundings.settings.LacksCredentials
    · obtain ⟨text, lines, hfetch⟩ := fetchGrant_of_lacks hlacks (world.logged first)
      rw [bind_apply_of_error hfetch, World.logged_logged]
      exact ⟨world, first ++ lines, .unconfigured husable hlacks, rfl⟩
    · obtain ⟨hdelivers, second, hworld⟩ := fetchGrant_of_credentials hlacks (world.logged first)
      rw [World.next_logged, World.sent_logged, World.logged_logged] at hworld
      rw [World.next_logged] at hdelivers
      rcases hfetch : fetchGrant surroundings (world.logged first) with ⟨failure | grant, between⟩
      · rw [hfetch] at hworld hdelivers
        rw [bind_apply_of_error hfetch]
        refine ⟨_, _, .refused husable hlacks fun grant hgrant => ?_, hworld⟩
        cases (hdelivers grant).mpr hgrant
      · rw [hfetch] at hworld hdelivers
        obtain rfl := hworld
        have hgrant := (hdelivers grant).mp rfl
        rw [bind_apply_of_ok hfetch]
        cases hlife : Instant.after? surroundings.answered
            (TokenCache.usefulLife surroundings.settings.tokenMargin grant) with
        | none =>
          rw [bind_apply_of_error (keepGrant_of_endless hlife _)]
          exact ⟨_, _, .endless husable hlacks hgrant hlife, rfl⟩
        | some expiry =>
          obtain ⟨third, hkeep⟩ := keepGrant_of_reachable hlife
            ((world.sent surroundings.settings.tokenRequest (world.next surroundings)).logged
              (first ++ second))
          rw [bind_apply_of_ok hkeep, World.withCache_logged, World.logged_logged]
          exact ⟨_, _, .granted husable hlacks hgrant hlife, rfl⟩

/-- The requests that asking for a token makes. -/
def tokenRequests (surroundings : Surroundings τ) (cache : TokenCache τ) : List Http.Request :=
  if cache.usable? surroundings.started = none ∧ ¬ surroundings.settings.LacksCredentials then
    [surroundings.settings.tokenRequest]
  else []

theorem tokenRequests_of_usable {surroundings : Surroundings τ} {cache : TokenCache τ}
    {token : String} (h : cache.usable? surroundings.started = some token) :
    tokenRequests surroundings cache = [] := by
  simp [tokenRequests, h]

theorem tokenRequests_of_lacks {surroundings : Surroundings τ} (cache : TokenCache τ)
    (h : surroundings.settings.LacksCredentials) : tokenRequests surroundings cache = [] := by
  simp [tokenRequests, h]

theorem tokenRequests_of_stale {surroundings : Surroundings τ} {cache : TokenCache τ}
    (hstale : cache.usable? surroundings.started = none)
    (h : ¬ surroundings.settings.LacksCredentials) :
    tokenRequests surroundings cache = [surroundings.settings.tokenRequest] :=
  if_pos ⟨hstale, h⟩

/-- Asking for a token sends at most the request for a token. -/
theorem requests_requireToken (surroundings : Surroundings τ) (world : World τ) :
    (requireToken surroundings world).2.requests =
      world.requests ++ tokenRequests surroundings world.client.cache := by
  obtain ⟨after, lines, hobtained, hworld⟩ := requireToken_obtained surroundings world
  rw [hworld, World.requests_logged]
  generalize (requireToken surroundings world).1 = result at hobtained
  cases hobtained with
  | kept husable => rw [tokenRequests_of_usable husable, List.append_nil]
  | unconfigured hstale hlacks => rw [tokenRequests_of_lacks _ hlacks, List.append_nil]
  | refused hstale hcredentials =>
    rw [tokenRequests_of_stale hstale hcredentials, World.requests_sent]
  | endless hstale hcredentials =>
    rw [tokenRequests_of_stale hstale hcredentials, World.requests_withCache, World.requests_sent]
  | granted hstale hcredentials =>
    rw [tokenRequests_of_stale hstale hcredentials, World.requests_withCache, World.requests_sent]

/-- Asking for a token leaves alone what neither the log, nor the requests, nor the cache
concern. -/
theorem keeps_requireToken {part : World τ → α}
    (hlog : ∀ lines world, part (World.logged lines world) = part world)
    (hsent : ∀ request outcome world, part (World.sent request outcome world) = part world)
    (hcache : ∀ cache world, part (World.withCache cache world) = part world) :
    Keeps part requireToken := by
  intro surroundings world
  obtain ⟨after, lines, hobtained, hworld⟩ := requireToken_obtained surroundings world
  rw [hworld, hlog]
  generalize (requireToken surroundings world).1 = result at hobtained
  cases hobtained with
  | kept => rfl
  | unconfigured => rfl
  | refused => exact hsent _ _ world
  | endless => exact (hcache _ _).trans (hsent _ _ world)
  | granted => exact (hcache _ _).trans (hsent _ _ world)

/-- Asking for a token leaves the pool alone. -/
theorem pool_requireToken (surroundings : Surroundings τ) (world : World τ) :
    (requireToken surroundings world).2.client.pool? = world.client.pool? := by
  have hkeeps : Keeps (fun world => world.client.pool?) (requireToken : Operation τ String) :=
    keeps_requireToken (fun _ _ => rfl) (fun _ _ _ => rfl) fun _ _ => rfl
  exact hkeeps surroundings world

/-- A token is obtained exactly if it is kept and usable, or else granted until an instant that the
clock can reach. -/
theorem requireToken_eq_ok_iff {surroundings : Surroundings τ} {world : World τ} {token : String} :
    (requireToken surroundings world).1 = .ok token ↔
      world.client.cache.usable? surroundings.started = some token ∨
      world.client.cache.usable? surroundings.started = none ∧
        ¬ surroundings.settings.LacksCredentials ∧
        ∃ grant, (world.next surroundings).Delivers surroundings.reading Grant.document grant ∧
          Instant.after? surroundings.answered
            (TokenCache.usefulLife surroundings.settings.tokenMargin grant) ≠ none ∧
          grant.token = token := by
  obtain ⟨after, lines, hobtained, -⟩ := requireToken_obtained surroundings world
  generalize (requireToken surroundings world).1 = result at hobtained ⊢
  cases hobtained with
  | kept husable => simp [husable]
  | unconfigured hstale hlacks => simp [hstale, hlacks]
  | refused hstale hcredentials hnone => simp [hstale, hnone]
  | @endless grant hstale hcredentials hgrant hlife =>
    constructor
    · rintro ⟨⟩
    · rintro (husable | ⟨-, -, other, hother, hreach, -⟩)
      · cases hstale.symm.trans husable
      · cases hgrant.unique hother
        exact absurd hlife hreach
  | @granted grant expiry hstale hcredentials hgrant hlife =>
    constructor
    · rintro ⟨⟩
      exact .inr ⟨hstale, hcredentials, grant, hgrant, by simp [hlife], rfl⟩
    · rintro (husable | ⟨-, -, other, hother, -, rfl⟩)
      · cases hstale.symm.trans husable
      · cases hgrant.unique hother
        rfl

/-- Whether a token is obtained depends on what the client keeps and on the next outcome only. -/
theorem requireToken_congr {surroundings : Surroundings τ} {world other : World τ}
    (hclient : world.client = other.client) (hforeseen : world.foreseen = other.foreseen)
    (token : String) :
    (requireToken surroundings world).1 = .ok token ↔
      (requireToken surroundings other).1 = .ok token := by
  have hnext : world.next surroundings = other.next surroundings := by
    simp only [World.next, hforeseen]
  rw [requireToken_eq_ok_iff, requireToken_eq_ok_iff, hclient, hnext]

end Operation

/-! ## Surroundings for trials -/

/-- A response that grants a token for a hundred seconds. -/
def trialGrant : Http.Response :=
  ⟨200, none, [("Content-Type", "application/json")],
    Utf8.encode "\x7b\"access_token\": \"T\", \"expires_in\": 100\x7d".toList⟩

/-- A reader for trials. -/
def Json.Reading.trial : Json.Reading := ⟨100, fun _ => '\uFFFD'⟩

/-- A writer for trials. -/
def Json.Writing.trial : Json.Writing := ⟨100, by decide⟩

theorem trialGrant_delivers :
    (Http.Outcome.response trialGrant).Delivers .trial Grant.document ⟨"T", 100⟩ := by
  refine ⟨.object [("access_token", .string "T"), ("expires_in", .integer 100)], ?_, ?_, ?_⟩
  · decide +kernel
  · exact ⟨⟨0, ""⟩, rfl, rfl⟩
  · rfl

/-- Surroundings in which the clock stands at an instant, nothing is logged, and every request for
which nothing is foreseen brings a token. -/
def Surroundings.trial (now : τ) : Surroundings τ where
  settings :=
    { logLevel := "info", timeout := 10, apiBase := "https://a", fileBase := "https://f"
      appId := "id", tokenMargin := 60, poolSize := 16, chunkSize := 32768, version := "dev"
      appSecret := "secret" }
  started := now
  answered := now
  boundary := "b"
  delivery := .complete
  logger := fun _ _ => false
  unforeseen := .response trialGrant
  reading := .trial
  writing := .trial

end PlatformClient

import PlatformClient.Proofs.Token.Obtaining

/-!
# How a failure leaves the cache

A new token is kept in two steps: first the token, then its expiry. Nearly all failures come before
the first step, while the token is requested, and leave the cache as it was. One failure comes
between the two. A grant that outlives the clock has its token in the cache already when the expiry
turns out to be out of reach, and the token stays there, beside the expiry of its predecessor.

## Main definitions

* `Operation.Overlives`: a token is requested, and the grant that arrives outlives the clock

## Main results

* `Operation.Overlives.requireToken_eq`, `Operation.cache_of_error`: the cache after the failure
  between the two steps, and after all others
* `Operation.cache_unchanged_iff`: when a failure leaves the cache as it was
-/

namespace PlatformClient

open Http (Outcome)

/-- A token changes the cache, unless the cache has it already. -/
theorem TokenCache.withToken_eq_self_iff {τ : Type} {cache : TokenCache τ} {token : String} :
    cache.withToken token = cache ↔ cache.token? = some token := by
  constructor
  · intro h
    exact (congrArg TokenCache.token? h).symm
  · intro h
    unfold withToken
    rw [← h]

namespace Operation

variable {τ : Type} [Instant τ] {surroundings : Surroundings τ} {world : World τ}
  {grant other : Grant} {failure : Failure}

/-- There is no usable token, and the request for one brings a grant whose expiry the clock cannot
reach. -/
structure Overlives (surroundings : Surroundings τ) (world : World τ) (grant : Grant) : Prop where
  stale : world.client.cache.usable? surroundings.started = none
  credentials : ¬ surroundings.settings.LacksCredentials
  delivered : (world.next surroundings).Delivers surroundings.reading Grant.document grant
  endless : Instant.after? surroundings.answered
    (TokenCache.usefulLife surroundings.settings.tokenMargin grant) = none

theorem Overlives.unique (h : Overlives surroundings world grant)
    (hother : Overlives surroundings world other) : grant = other :=
  h.delivered.unique hother.delivered

/-- A grant that outlives the clock is a failure, after which its token is in the cache. -/
theorem Overlives.requireToken_eq (h : Overlives surroundings world grant) :
    (requireToken surroundings world).1 = .error .lifetimeTooLong ∧
      (requireToken surroundings world).2.client.cache =
        world.client.cache.withToken grant.token := by
  obtain ⟨after, lines, hobtained, hworld⟩ := requireToken_obtained surroundings world
  rw [hworld]
  generalize (requireToken surroundings world).1 = result at hobtained ⊢
  cases hobtained with
  | kept husable => cases h.stale.symm.trans husable
  | unconfigured hstale hlacks => exact absurd hlacks h.credentials
  | refused hstale hcredentials hnone => exact absurd h.delivered (hnone grant)
  | endless hstale hcredentials hgrant hlife =>
    obtain rfl := h.delivered.unique hgrant
    exact ⟨rfl, rfl⟩
  | granted hstale hcredentials hgrant hlife =>
    obtain rfl := h.delivered.unique hgrant
    cases h.endless.symm.trans hlife

/-- Any other failure leaves the cache as it was. -/
theorem cache_of_error (h : (requireToken surroundings world).1 = .error failure)
    (hnone : ∀ grant, ¬ Overlives surroundings world grant) :
    (requireToken surroundings world).2.client.cache = world.client.cache := by
  obtain ⟨after, lines, hobtained, hworld⟩ := requireToken_obtained surroundings world
  rw [hworld]
  rw [h] at hobtained
  cases hobtained with
  | unconfigured => rfl
  | refused => rfl
  | @endless grant hstale hcredentials hgrant hlife =>
    exact absurd ⟨hstale, hcredentials, hgrant, hlife⟩ (hnone grant)

/-- A failure leaves the expiry as it was. It leaves the cache as it was exactly if each grant that
outlives the clock is of the kept token; only a failure of this one kind ever touches the cache. -/
theorem cache_unchanged_iff (h : (requireToken surroundings world).1 = .error failure) :
    (requireToken surroundings world).2.client.cache.expiry = world.client.cache.expiry ∧
    ((requireToken surroundings world).2.client.cache = world.client.cache ↔
      ∀ grant, Overlives surroundings world grant →
        world.client.cache.token? = some grant.token) ∧
    (failure ≠ .lifetimeTooLong →
      (requireToken surroundings world).2.client.cache = world.client.cache) := by
  by_cases hoverlives : ∃ grant, Overlives surroundings world grant
  · obtain ⟨grant, hgrant⟩ := hoverlives
    obtain ⟨hresult, hcache⟩ := hgrant.requireToken_eq
    have hfailure : failure = .lifetimeTooLong := Except.error.inj (h.symm.trans hresult)
    rw [hcache]
    refine ⟨rfl, ?_, fun hother => absurd hfailure hother⟩
    rw [TokenCache.withToken_eq_self_iff]
    constructor
    · intro htoken other hother
      exact hgrant.unique hother ▸ htoken
    · intro hkept
      exact hkept grant hgrant
  · have hnone : ∀ grant, ¬ Overlives surroundings world grant := not_exists.mp hoverlives
    have hcache := cache_of_error h hnone
    refine ⟨congrArg TokenCache.expiry hcache, ?_, fun _ => hcache⟩
    exact iff_of_true hcache fun grant hgrant => absurd hgrant (hnone grant)

/-- The network fails while an expired token is to be replaced. -/
theorem cache_unchanged_of_network_fault :
    let world : World Nat := .of ⟨.store "old" 5, none⟩ ⟨[]⟩ [.failed (.outside .connection "x")]
    (requireToken (.trial 7) world).1 = .error (.fault (.outside .connection "x")) ∧
      (requireToken (.trial 7) world).2.client.cache = .store "old" 5 := by
  intro world
  have hfailure : (requireToken (.trial 7) world).1 =
      .error (.fault (.outside .connection "x")) := rfl
  obtain ⟨-, -, hcache⟩ := cache_unchanged_iff hfailure
  exact ⟨hfailure, hcache nofun⟩

/-- A response that grants a token for so many seconds that no floating point number is as large. -/
def endlessGrant : Http.Response :=
  ⟨200, none, [("Content-Type", "application/json")],
    Utf8.encode ("\x7b\"access_token\": \"T\", \"expires_in\": 1".toList ++
      List.replicate 400 '0' ++ ['\x7d'])⟩

theorem endlessGrant_delivers :
    (Outcome.response endlessGrant).Delivers .trial Grant.document ⟨"T", Nat.pow 10 400⟩ := by
  refine ⟨.object [("access_token", .string "T"), ("expires_in", .integer (Nat.pow 10 400))],
    ?_, ?_, ?_⟩
  · decide +kernel
  · exact ⟨⟨0, ""⟩, rfl, rfl⟩
  · rfl

/-- A new client fails to obtain a token, and its cache is no longer empty. -/
theorem cache_changed_of_endless :
    let world : World Float := .of .new ⟨[]⟩ [.response endlessGrant]
    (requireToken (.trial 0) world).1 = .error .lifetimeTooLong ∧
      world.client.cache.token? = none ∧
      (requireToken (.trial 0) world).2.client.cache.token? = some "T" ∧
      (requireToken (.trial 0) world).2.client.cache ≠ world.client.cache := by
  intro world
  have hoverlives : Overlives (.trial 0) world ⟨"T", Nat.pow 10 400⟩ :=
    { stale := TokenCache.usable?_empty 0
      credentials := by decide
      delivered := endlessGrant_delivers
      endless := by
        have hlarge : (Binary64.ofNat?
            (TokenCache.usefulLife 60 ⟨"T", Nat.pow 10 400⟩)).isNone := by decide +kernel
        exact Option.map_eq_none_iff.mpr (Option.isNone_iff_eq_none.mp hlarge) }
  obtain ⟨hresult, hcache⟩ := hoverlives.requireToken_eq
  have htoken := congrArg TokenCache.token? hcache
  refine ⟨hresult, rfl, htoken, fun hsame => ?_⟩
  cases htoken.symm.trans (congrArg TokenCache.token? hsame)

end Operation

end PlatformClient

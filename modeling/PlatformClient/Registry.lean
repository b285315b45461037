import PlatformClient.Failure
import PlatformClient.Settings

/-!
# Values built once

A registry holds the values that have been built. The value of a key is built at its first demand,
in a state that the build reads and changes, and is handed out from then on. A build that fails
leaves no value, and the next demand tries again. In this way a client is put together from its
parts, of which only the pool of buffers can fail to be built.

## Main definitions

* `Registry`: the values built so far, in the order of their building
* `Registry.find?`, `Registry.place?`: the value of a key, and its place in the order
* `Registry.insert`: a new value behind the others
* `Registry.Build`, `Registry.Site`: builds, and the values built so far beside their state
* `Registry.Site.demand`: the value of a key is demanded
* `Part`, `Part.build`: the parts of a client, and how each is built under a configuration
* `Part.built`: the parts of a client that have been built

## Main results

* `Registry.find?_insert_of_find?`, `Registry.find?_insert_of_ne`: what has been built stays, and
  other keys are not affected
* `Registry.Site.demand_of_find?`, `Registry.Site.demand_of_ok`, `Registry.Site.demand_of_error`:
  the three ways in which a demand goes
-/

namespace PlatformClient

/-- The values built so far with their keys, in the order of their building. -/
structure Registry (κ α : Type) where
  entries : List (κ × α)

namespace Registry

variable {κ σ ε α : Type}

/-- A registry in which nothing has been built. -/
def empty : Registry κ α := ⟨[]⟩

/-- A value is put behind the others. -/
def insert (key : κ) (value : α) (registry : Registry κ α) : Registry κ α :=
  ⟨registry.entries ++ [(key, value)]⟩

variable [DecidableEq κ]

/-- The value of a key, if it has been built. -/
def find? (key : κ) (registry : Registry κ α) : Option α :=
  (registry.entries.find? (·.1 == key)).map (·.2)

/-- The place of a key in the order of building. -/
def place? (key : κ) (registry : Registry κ α) : Option Nat :=
  registry.entries.findIdx? (·.1 == key)

theorem find?_insert {key : κ} {registry : Registry κ α} (h : registry.find? key = none)
    (value : α) : (registry.insert key value).find? key = some value := by
  have hnone : registry.entries.find? (·.1 == key) = none := by
    simpa [find?] using h
  simp [find?, insert, List.find?_append, hnone]

/-- What has been built stays. -/
theorem find?_insert_of_find? {key : κ} {value : α} {registry : Registry κ α}
    (h : registry.find? key = some value) (other : κ) (more : α) :
    (registry.insert other more).find? key = some value := by
  simp only [find?, insert, List.find?_append, Option.map_eq_some_iff] at h ⊢
  obtain ⟨entry, hfound, hvalue⟩ := h
  exact ⟨entry, by simp [hfound], hvalue⟩

/-- Other keys are not affected. -/
theorem find?_insert_of_ne {key other : κ} (h : key ≠ other) (value : α)
    (registry : Registry κ α) : (registry.insert key value).find? other = registry.find? other := by
  simp [find?, insert, List.find?_append, h]

/-! ## Demands -/

/-- A way to build a value: in a state, with a value or a fault, and with the state that it leaves
behind. -/
abbrev Build (σ ε α : Type) : Type := σ → Except ε α × σ

/-- The values built so far, and the state in which builds are run. -/
structure Site (κ σ α : Type) where
  registry : Registry κ α
  state : σ

namespace Site

/-- The value of a key is demanded: the one that has been built, or else what the build has for a
result, which is kept if it is a value. -/
def demand (key : κ) (build : Build σ ε α) (site : Site κ σ α) : Except ε α × Site κ σ α :=
  match site.registry.find? key with
  | some value => (.ok value, site)
  | none =>
    match build site.state with
    | (.ok value, state) => (.ok value, ⟨site.registry.insert key value, state⟩)
    | (.error fault, state) => (.error fault, ⟨site.registry, state⟩)

variable {site : Site κ σ α} {key : κ} {build : Build σ ε α} {value : α}

/-- A value that has been built is handed out, and no build is run. -/
theorem demand_of_find? (h : site.registry.find? key = some value) (build : Build σ ε α) :
    site.demand key build = (.ok value, site) := by
  simp only [demand, h]

/-- A build that succeeds is handed out and kept. -/
theorem demand_of_ok (h : site.registry.find? key = none)
    (hbuild : (build site.state).1 = .ok value) :
    site.demand key build =
      (.ok value, ⟨site.registry.insert key value, (build site.state).2⟩) := by
  rcases hresult : build site.state with ⟨result, state⟩
  rw [hresult] at hbuild
  cases hbuild
  simp only [demand, h, hresult]

/-- A build that fails leaves the values as they are. -/
theorem demand_of_error (h : site.registry.find? key = none) {fault : ε}
    (hbuild : (build site.state).1 = .error fault) :
    site.demand key build = (.error fault, ⟨site.registry, (build site.state).2⟩) := by
  rcases hresult : build site.state with ⟨result, state⟩
  rw [hresult] at hbuild
  cases hbuild
  simp only [demand, h, hresult]

end Site

end Registry

/-! ## The parts of a client -/

/-- The parts of a client. -/
inductive Part where
  | bufferPool
  | tokens
  | transport
  | media
  | orders
deriving DecidableEq

namespace Part

/-- All parts, in order. -/
def all : List Part := [bufferPool, tokens, transport, media, orders]

/-- A part is built under a configuration. -/
def build (settings : Settings) : Part → Except Failure Part
  | bufferPool =>
    if (Pool.create? settings.poolSize).isSome then .ok bufferPool else .error .poolSize
  | part => .ok part

/-- The parts of a client that have been built, in order; the clients are numbered. -/
def built (registry : Registry (Nat × Part) Part) (client : Nat) : List Part :=
  all.filter fun part => (registry.find? (client, part)).isSome

end Part

end PlatformClient

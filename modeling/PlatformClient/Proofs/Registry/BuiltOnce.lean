import Mathlib.Data.List.Induction
import PlatformClient.Registry
import PlatformClient.Settings

/-!
# Values are built once

Builds are run in a state that they read and change, and that may change for other reasons as well.
A demand runs its build only if no value of its key has been built. So in a run of any length, with
any builds, what is handed out for a key is what was built by the first build of this key that
succeeded, in the state of that time. Builds that fail leave the values as they are, and builds of
other keys do not matter.

Settings are such a value: what has been read from the environment once is kept, whatever becomes of
the environment and the defaults.

## Main definitions

* `Registry.Event`, `Registry.Site.after`: what can happen, and what has become of a site
* `Registry.Unbuilt`, `Registry.FirstBuilt`: no build of a key has succeeded, and the first one has
* `Registry.BuiltOnce`: how demands are answered

## Main results

* `Registry.Site.find?_next`: what has been built stays
* `Registry.unbuilt_or_firstBuilt`: one of the two is the case
* `Registry.find?_after_eq_some_iff`: the value of a key is what was built first
* `Registry.demands_builtOnce`: how demands are answered in every run
-/

namespace PlatformClient

namespace Registry

/-- What can happen: the value of a key is demanded, or the state changes for another reason. -/
inductive Event (κ σ ε α : Type) where
  | demand (key : κ) (build : Build σ ε α)
  | change (step : σ → σ)

variable {κ σ ε α : Type} [DecidableEq κ]

/-! ## Courses of events -/

namespace Site

/-- What becomes of a site. -/
def next (event : Event κ σ ε α) (site : Site κ σ α) : Site κ σ α :=
  match event with
  | .demand key build => (site.demand key build).2
  | .change step => { site with state := step site.state }

/-- What has become of a site after some events. -/
def after (site : Site κ σ α) (events : List (Event κ σ ε α)) : Site κ σ α :=
  events.foldl (fun site event => site.next event) site

variable {site : Site κ σ α} {key : κ} {build : Build σ ε α} {value : α}

/-- What is handed out is the value of the key afterwards. -/
theorem find?_demand (h : (site.demand key build).1 = .ok value) :
    (site.demand key build).2.registry.find? key = some value := by
  cases hfound : site.registry.find? key with
  | some other =>
    rw [demand_of_find? hfound] at h ⊢
    exact hfound.trans (congrArg some (Except.ok.inj h))
  | none =>
    cases hbuild : (build site.state).1 with
    | error fault =>
      rw [demand_of_error hfound hbuild] at h
      cases h
    | ok built =>
      rw [demand_of_ok hfound hbuild] at h ⊢
      cases h
      exact find?_insert hfound value

/-- The values of other keys are not affected. -/
theorem find?_demand_of_ne {other : κ} (h : key ≠ other) (build : Build σ ε α)
    (site : Site κ σ α) :
    (site.demand key build).2.registry.find? other = site.registry.find? other := by
  unfold demand
  split
  · rfl
  · split
    · exact find?_insert_of_ne h _ _
    · rfl

/-- What has been built stays. -/
theorem find?_next (h : site.registry.find? key = some value) (event : Event κ σ ε α) :
    (site.next event).registry.find? key = some value := by
  cases event with
  | change step => exact h
  | demand other build =>
    rw [next, demand]
    split
    · exact h
    · split
      · exact find?_insert_of_find? h _ _
      · exact h

theorem after_append (site : Site κ σ α) (events more : List (Event κ σ ε α)) :
    site.after (events ++ more) = (site.after events).after more :=
  List.foldl_append

theorem after_concat (site : Site κ σ α) (events : List (Event κ σ ε α)) (event : Event κ σ ε α) :
    site.after (events ++ [event]) = (site.after events).next event :=
  site.after_append events [event]

theorem find?_after (h : site.registry.find? key = some value) (events : List (Event κ σ ε α)) :
    (site.after events).registry.find? key = some value := by
  induction events generalizing site with
  | nil => exact h
  | cons event rest ih => exact ih (find?_next h event)

end Site

/-! ## The first build that succeeds -/

/-- In the course of events, no build of a key has succeeded: each of them, run where it was
demanded, has a fault. -/
def Unbuilt (start : Site κ σ α) (events : List (Event κ σ ε α)) (key : κ) : Prop :=
  ∀ front build rest, events = front ++ .demand key build :: rest →
    ∃ fault, (build (start.after front).state).1 = .error fault

/-- A value is what was built by the first build of a key that succeeded, in the state in which it
was run. -/
def FirstBuilt (start : Site κ σ α) (events : List (Event κ σ ε α)) (key : κ) (value : α) : Prop :=
  ∃ front build rest, events = front ++ .demand key build :: rest ∧ Unbuilt start front key ∧
    (build (start.after front).state).1 = .ok value

variable {start : Site κ σ α} {events : List (Event κ σ ε α)} {key : κ} {value : α}

theorem unbuilt_nil (start : Site κ σ α) (key : κ) :
    Unbuilt start ([] : List (Event κ σ ε α)) key :=
  fun _ _ _ h => absurd h.symm (List.append_ne_nil_of_right_ne_nil _ (List.cons_ne_nil _ _))

/-- No build has succeeded with one more event, if it is not one that succeeds. -/
theorem Unbuilt.concat (h : Unbuilt start events key) {event : Event κ σ ε α}
    (hevent : ∀ build, event = .demand key build →
      ∃ fault, (build (start.after events).state).1 = .error fault) :
    Unbuilt start (events ++ [event]) key := by
  intro front build rest heq
  rcases List.eq_nil_or_concat rest with rfl | ⟨middle, last, rfl⟩
  · obtain ⟨rfl, hlast⟩ := List.append_inj' heq rfl
    exact hevent build (List.singleton_inj.mp hlast)
  · rw [List.concat_eq_append, ← List.cons_append, ← List.append_assoc] at heq
    exact h front build middle (List.append_inj' heq rfl).1

theorem FirstBuilt.append (h : FirstBuilt start events key value)
    (later : List (Event κ σ ε α)) : FirstBuilt start (events ++ later) key value := by
  obtain ⟨front, build, rest, rfl, hunbuilt, hbuild⟩ := h
  exact ⟨front, build, rest ++ later, by rw [List.append_assoc, List.cons_append], hunbuilt, hbuild⟩

/-- The first build that succeeds may be the last event. -/
theorem Unbuilt.firstBuilt (h : Unbuilt start events key) {build : Build σ ε α}
    (hbuild : (build (start.after events).state).1 = .ok value) :
    FirstBuilt start (events ++ [.demand key build]) key value :=
  ⟨events, build, [], rfl, h, hbuild⟩

/-- Either no build of a key has succeeded, or one has been the first. The induction goes from the
end, since what a build does depends on what has happened before it. -/
theorem unbuilt_or_firstBuilt (start : Site κ σ α) (events : List (Event κ σ ε α)) (key : κ) :
    Unbuilt start events key ∨ ∃ value, FirstBuilt start events key value := by
  induction events using List.reverseRecOn with
  | nil => exact .inl (unbuilt_nil start key)
  | append_singleton events event ih =>
    rcases ih with hunbuilt | ⟨value, hfirst⟩
    · by_cases hbuilt : ∃ build value, event = .demand key build ∧
          (build (start.after events).state).1 = .ok value
      · obtain ⟨build, value, rfl, hbuild⟩ := hbuilt
        exact .inr ⟨value, hunbuilt.firstBuilt hbuild⟩
      · refine .inl (hunbuilt.concat fun build hevent => ?_)
        cases hbuild : (build (start.after events).state).1 with
        | error fault => exact ⟨fault, rfl⟩
        | ok value => exact absurd ⟨build, value, hevent, hbuild⟩ hbuilt
    · exact .inr ⟨value, hfirst.append [event]⟩

/-! ## The values that have been built -/

/-- Without a build that has succeeded there is no value. -/
theorem find?_after_of_unbuilt (hstart : start.registry.find? key = none)
    (h : Unbuilt start events key) : (start.after events).registry.find? key = none := by
  induction events using List.reverseRecOn with
  | nil => exact hstart
  | append_singleton events event ih =>
    have hnone := ih fun front build rest heq =>
      h front build (rest ++ [event]) (by rw [heq, List.append_assoc, List.cons_append])
    rw [Site.after_concat]
    cases event with
    | change step => exact hnone
    | demand other build =>
      by_cases hkey : other = key
      · subst hkey
        obtain ⟨fault, hfault⟩ := h events build [] rfl
        rw [Site.next, Site.demand_of_error hnone hfault]
        exact hnone
      · rw [Site.next, Site.find?_demand_of_ne hkey]
        exact hnone

/-- What was built first is the value from then on. -/
theorem FirstBuilt.find?_after (hstart : start.registry.find? key = none)
    (h : FirstBuilt start events key value) :
    (start.after events).registry.find? key = some value := by
  obtain ⟨front, build, rest, rfl, hunbuilt, hbuild⟩ := h
  have hnone := find?_after_of_unbuilt hstart hunbuilt
  have hbuilt : ((start.after front).next (.demand key build)).registry.find? key = some value :=
    Site.find?_demand (congrArg Prod.fst (Site.demand_of_ok hnone hbuild))
  rw [Site.after_append]
  exact Site.find?_after hbuilt rest

/-- The value of a key is what was built first. -/
theorem find?_after_eq_some_iff (hstart : start.registry.find? key = none) :
    (start.after events).registry.find? key = some value ↔ FirstBuilt start events key value := by
  refine ⟨fun hfound => ?_, FirstBuilt.find?_after hstart⟩
  rcases unbuilt_or_firstBuilt start events key with hunbuilt | ⟨first, hfirst⟩
  · rw [find?_after_of_unbuilt hstart hunbuilt] at hfound
    cases hfound
  · rw [hfirst.find?_after hstart] at hfound
    exact Option.some.inj hfound ▸ hfirst

/-- Once a build has succeeded, its value is handed out and no other build is run. -/
theorem FirstBuilt.demand (hstart : start.registry.find? key = none)
    (h : FirstBuilt start events key value) (build : Build σ ε α) :
    (start.after events).demand key build = (.ok value, start.after events) :=
  Site.demand_of_find? (h.find?_after hstart) build

/-- What has been built first is the same at all later times. -/
theorem FirstBuilt.unique (hstart : start.registry.find? key = none)
    (h : FirstBuilt start events key value) {later : List (Event κ σ ε α)} {value' : α}
    (h' : FirstBuilt start (events ++ later) key value') : value' = value := by
  have hfound := (h.append later).find?_after hstart
  rw [h'.find?_after hstart] at hfound
  exact Option.some.inj hfound

/-- What a demand returns has been built first. -/
theorem firstBuilt_of_demand (hstart : start.registry.find? key = none) {build : Build σ ε α}
    (h : ((start.after events).demand key build).1 = .ok value) :
    FirstBuilt start (events ++ [.demand key build]) key value := by
  rw [← find?_after_eq_some_iff hstart, Site.after_concat]
  exact Site.find?_demand h

/-! ## Settings -/

/-- Settings as a value among others: they are read from the environment that the state holds. -/
def settingsBuild (environment : σ → Environment) (keep : Settings → α)
    (refuse : Text.IntegerFault → ε) (defaults : Settings.Defaults) : Build σ ε α :=
  fun state => (((Settings.read (environment state) defaults).map keep).mapError refuse, state)

/-- Settings that have been read are what has been built first. -/
theorem Unbuilt.firstBuilt_settings (h : Unbuilt start events key) {environment : σ → Environment}
    {defaults : Settings.Defaults} {settings : Settings}
    (hread : Settings.read (environment (start.after events).state) defaults = .ok settings)
    (keep : Settings → α) (refuse : Text.IntegerFault → ε) (later : List (Event κ σ ε α)) :
    FirstBuilt start
      (events ++ .demand key (settingsBuild environment keep refuse defaults) :: later) key
      (keep settings) :=
  ⟨events, _, later, rfl, h, by rw [settingsBuild, hread]; rfl⟩

/-! ## Every run -/

/-- How the demand of a key is answered after some events, and what becomes of the values. -/
structure BuiltOnce (start : Site κ σ α) (events : List (Event κ σ ε α)) (key : κ)
    (build : Build σ ε α) : Prop where
  /-- A value that is handed out is what the first build of its key that succeeded has built. It may
  be this very build. -/
  returned : ∀ value, ((start.after events).demand key build).1 = .ok value →
    FirstBuilt start (events ++ [.demand key build]) key value
  /-- There is no other such value at any later time. -/
  unique : ∀ value, FirstBuilt start events key value → ∀ later value',
    FirstBuilt start (events ++ later) key value' → value' = value
  /-- Once a build of the key has succeeded, no other is run: the value is handed out, and
  everything is as before. -/
  again : ∀ value, FirstBuilt start events key value →
    (start.after events).demand key build = (.ok value, start.after events)
  /-- The value stays, whatever happens. -/
  kept : ∀ value, FirstBuilt start events key value → ∀ later,
    (start.after (events ++ later)).registry.find? key = some value
  /-- As long as none has succeeded, the build is run. If it succeeds, its value is handed out and
  put behind the others. -/
  built : Unbuilt start events key → ∀ value, (build (start.after events).state).1 = .ok value →
    (start.after events).demand key build =
      (.ok value, ⟨⟨(start.after events).registry.entries ++ [(key, value)]⟩,
        (build (start.after events).state).2⟩)
  /-- If it fails, its fault is handed on, the values are exactly as before, and so the next demand
  runs its build again. -/
  failed : Unbuilt start events key → ∀ fault,
    (build (start.after events).state).1 = .error fault →
    (start.after events).demand key build =
        (.error fault, ⟨(start.after events).registry, (build (start.after events).state).2⟩) ∧
      Unbuilt start (events ++ [.demand key build]) key
  /-- One of the two is the case. -/
  decided : Unbuilt start events key ∨ ∃ value, FirstBuilt start events key value
  /-- The values of other keys are not affected. -/
  others : ∀ other, key ≠ other →
    ((start.after events).demand key build).2.registry.find? other =
      (start.after events).registry.find? other
  /-- Settings that have been read once are handed out whatever has become of the environment, and
  whatever the defaults are. -/
  settings : ∀ (environment : σ → Environment) (keep : Settings → α)
    (refuse : Text.IntegerFault → ε) (defaults : Settings.Defaults) (first : Settings),
    Unbuilt start events key →
    Settings.read (environment (start.after events).state) defaults = .ok first →
    ∀ (later : List (Event κ σ ε α)) (others : Settings.Defaults) (last : Site κ σ α),
      last = start.after
        (events ++ .demand key (settingsBuild environment keep refuse defaults) :: later) →
      last.demand key (settingsBuild environment keep refuse others) = (.ok (keep first), last)

/-- **Values are built once.** This holds at every point of every run that begins with no values,
for every key and every build. -/
theorem demands_builtOnce (state : σ) (events : List (Event κ σ ε α)) (key : κ)
    (build : Build σ ε α) : BuiltOnce ⟨.empty, state⟩ events key build := by
  have hstart : (⟨.empty, state⟩ : Site κ σ α).registry.find? key = none := rfl
  refine
    { returned := fun value hresult => firstBuilt_of_demand hstart hresult
      unique := fun value hfirst later value' hfirst' => hfirst.unique hstart hfirst'
      again := fun value hfirst => hfirst.demand hstart build
      kept := fun value hfirst later => (hfirst.append later).find?_after hstart
      built := fun hunbuilt value hbuild =>
        Site.demand_of_ok (find?_after_of_unbuilt hstart hunbuilt) hbuild
      failed := fun hunbuilt fault hbuild =>
        ⟨Site.demand_of_error (find?_after_of_unbuilt hstart hunbuilt) hbuild, ?_⟩
      decided := unbuilt_or_firstBuilt _ events key
      others := fun other hother => Site.find?_demand_of_ne hother build _
      settings := ?_ }
  · refine hunbuilt.concat fun other hother => ?_
    cases hother
    exact ⟨fault, hbuild⟩
  · rintro environment keep refuse defaults first hunbuilt hread later others last rfl
    exact (hunbuilt.firstBuilt_settings hread keep refuse later).demand hstart _

/-- A build fails once; then a key is built, another one beside it, and the first is built no more.
Here the state counts the builds of the first key. -/
example : (⟨.empty, 0⟩ : Site Bool Nat Nat).after
    [.demand true fun count => (.error "refused", count + 1),
      .demand true fun count => (.ok 7, count + 1), .demand false fun count => (.ok count, count),
      .demand true fun count => (.ok 9, count + 1)] = ⟨⟨[(true, 7), (false, 2)]⟩, 2⟩ := rfl

end Registry

end PlatformClient

import PlatformClient.FileStore

/-!
# Files opened for writing

A path under which a file has been opened for writing leads to that file from then on, since no
directory is lost. Reading the path gives exactly what has been added since, whatever the file held
before.

## Main results

* `FileStore.walk_of_directories`: a walk succeeds in any store with the same directories
* `FileStore.place_eq_ok`: what is known of a place at which a file is written
* `FileStore.read_of_create`: an opened file is empty
* `FileStore.read_append_of_create`: an opened file holds what has been added to it
-/

namespace PlatformClient.FileStore

/-! ## Entries -/

/-- Where directories are known to be, no entry is looked up. -/
theorem not_isTop_of_entry {store : FileStore} {trail : FileTrail}
    (h : store.entry? trail ≠ some .directory) : (trail.isTop || trail == .root) = false := by
  rw [Bool.eq_false_iff]
  intro htop
  apply h
  unfold entry?
  rw [if_pos htop]

theorem put_entry_self {store : FileStore} {trail : FileTrail}
    (h : store.entry? trail ≠ some .directory) (entry : FileEntry) :
    entry? (store.put trail entry) trail = some entry := by
  simp [put, entry?, not_isTop_of_entry h]

theorem put_entry_of_ne {trail place : FileTrail} (h : place ≠ trail) (store : FileStore)
    (entry : FileEntry) : entry? (store.put trail entry) place = store.entry? place := by
  have hfind : (store.entries.filter (·.1 != trail)).find? (·.1 == place) =
      store.entries.find? (·.1 == place) := by
    rw [List.find?_filter]
    congr 1
    funext found
    by_cases hfound : found.1 = place
    · simp [hfound, h]
    · simp [hfound]
  simp [put, entry?, Ne.symm h, hfind]

/-- A file that is put where no directory is leaves every directory. -/
theorem directory_put {store : FileStore} {trail place : FileTrail}
    (h : store.entry? trail ≠ some .directory) (content : Octets)
    (hplace : store.entry? place = some .directory) :
    entry? (store.put trail (.file content)) place = some .directory := by
  have hne : place ≠ trail := by
    rintro rfl
    exact h hplace
  rwa [put_entry_of_ne hne]

/-! ## Paths -/

/-- A walk leads through directories only, so it succeeds in any store that has them. -/
theorem walk_of_directories {store other : FileStore}
    (h : ∀ place, store.entry? place = some .directory → other.entry? place = some .directory)
    {names : List String} {trail last : FileTrail} (hwalk : store.walk trail names = .ok last) :
    other.walk trail names = .ok last := by
  induction names generalizing trail with
  | nil => exact hwalk
  | cons name rest ih =>
    unfold walk at hwalk ⊢
    split at hwalk
    · cases hwalk
    · cases hwalk
    · rename_i hdirectory
      rw [h trail hdirectory]
      simp only
      split
      · rename_i hempty
        rw [if_pos hempty] at hwalk
        exact ih hwalk
      · rename_i hempty
        rw [if_neg hempty] at hwalk
        split
        · rename_i hdots
          rw [if_pos hdots] at hwalk
          exact ih hwalk
        · rename_i hdots
          rw [if_neg hdots] at hwalk
          split at hwalk
          · cases hwalk
          · rename_i hlength
            rw [if_neg hlength]
            exact ih hwalk

/-- Only slashes at the end are removed from a path. -/
theorem withoutSlashes_of_not_endsWith {path : String} (h : path.endsWith "/" = false) :
    withoutSlashes path = path := by
  have hends : ¬ ['/'] <:+ path.toList := by
    have hslice := String.Slice.endsWith_string_eq_false_iff.mp h
    simpa using hslice
  have hlast : path.toList.reverse.dropWhile (· == '/') = path.toList.reverse := by
    cases hreverse : path.toList.reverse with
    | nil => rfl
    | cons c rest =>
      have hpath : path.toList = rest.reverse ++ [c] := by
        rw [← List.reverse_reverse path.toList, hreverse, List.reverse_cons]
      have hne : c ≠ '/' := by
        rintro rfl
        exact hends ⟨rest.reverse, hpath.symm⟩
      simp [hne]
  unfold withoutSlashes
  rw [hlast, List.reverse_reverse, String.ofList_toList]

/-- A place at which a file is written is where the path leads, and no directory is there. -/
theorem place_eq_ok {store : FileStore} {path : String} {trail : FileTrail}
    (h : store.place path = .ok trail) :
    store.resolve path = .ok trail ∧ store.entry? trail ≠ some .directory := by
  unfold place at h
  unfold resolve
  cases hfault : pathFault? path with
  | some kind =>
    rw [hfault] at h
    cases h
  | none =>
    cases hends : path.endsWith "/" with
    | true =>
      simp only [hfault, hends, if_true] at h
      cases hwalk : store.walk (start path) (names (withoutSlashes path)).dropLast with
      | error kind =>
        rw [hwalk] at h
        cases h
      | ok found =>
        rw [hwalk] at h
        cases hentry : store.entry? found with
        | none => simp [hentry, bind, Except.bind] at h
        | some entry => cases entry <;> simp [hentry, bind, Except.bind] at h
    | false =>
      simp only [hfault, hends, withoutSlashes_of_not_endsWith hends] at h ⊢
      cases hwalk : store.walk (start path) (names path) with
      | error kind => simp [hwalk, bind, Except.bind] at h
      | ok found =>
        cases hentry : store.entry? found with
        | none =>
          simp [hwalk, hentry, bind, Except.bind, pure, Except.pure] at h
          simp [← h, hentry]
        | some entry =>
          cases entry with
          | directory => simp [hwalk, hentry, bind, Except.bind] at h
          | file content =>
            simp [hwalk, hentry, bind, Except.bind, pure, Except.pure] at h
            simp [← h, hentry]

/-! ## Opened files -/

/-- The opening of a file puts an empty one where the path leads. -/
theorem create_eq_ok {store opened : FileStore} {path : String} {trail : FileTrail}
    (h : store.create path = .ok (trail, opened)) :
    store.place path = .ok trail ∧ opened = store.put trail (.file []) := by
  unfold create at h
  cases hplace : store.place path with
  | error kind =>
    rw [hplace] at h
    cases h
  | ok found =>
    rw [hplace] at h
    cases h
    exact ⟨rfl, rfl⟩

/-- A path leads to the file that is put at its place. -/
theorem read_of_place {store other : FileStore} {path : String} {trail : FileTrail}
    (hplace : store.place path = .ok trail)
    (hdirectories : ∀ place, store.entry? place = some .directory →
      other.entry? place = some .directory)
    {content : Octets} (hentry : other.entry? trail = some (.file content)) :
    other.read path = .ok content := by
  have hresolve : other.resolve path = .ok trail := by
    have hfound := (place_eq_ok hplace).1
    unfold resolve at hfound ⊢
    split at hfound
    · cases hfound
    · exact walk_of_directories hdirectories hfound
  unfold read
  rw [hresolve]
  simp only [hentry]

section Created

variable {store opened : FileStore} {path : String} {trail : FileTrail}
  (h : store.create path = .ok (trail, opened))
include h

/-- An opened file is empty, whatever it held before. -/
theorem read_of_create : opened.read path = .ok [] := by
  obtain ⟨hplace, rfl⟩ := create_eq_ok h
  have hfree := (place_eq_ok hplace).2
  exact read_of_place hplace (fun _ => directory_put hfree []) (put_entry_self hfree _)

/-- An opened file holds what has been added to it, whatever it held before. -/
theorem read_append_of_create (data : Octets) :
    (opened.append trail data).read path = .ok data := by
  obtain ⟨hplace, rfl⟩ := create_eq_ok h
  have hfree := (place_eq_ok hplace).2
  have hempty : entry? (store.put trail (.file [])) trail = some (.file []) :=
    put_entry_self hfree _
  have hagain : entry? (store.put trail (.file [])) trail ≠ some .directory := by
    rw [hempty]
    nofun
  have happend : (store.put trail (.file [])).append trail data =
      (store.put trail (.file [])).put trail (.file data) := by
    unfold append
    rw [hempty]
    rfl
  rw [happend]
  refine read_of_place hplace (fun place hdirectory => ?_) (put_entry_self hagain _)
  exact directory_put hagain data (directory_put hfree [] hdirectory)

end Created

end PlatformClient.FileStore

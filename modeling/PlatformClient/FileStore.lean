import PlatformClient.Octets.Utf8
import PlatformClient.Text.Quoted
import PlatformClient.Text.Split

/-!
# Files

A store of files in nested directories, and the rules by which paths lead to them. A path is walked
step by step: each name but the last must lead to a directory, and a slash at the end asks for a
directory. The directories above the top directory and the root are there too, but nothing in them
is known.

## Main definitions

* `FileStore`: directories and files by their names
* `FileStore.read`: the content of a file
* `FileStore.create`: the store after a file has been opened for writing
* `FileStore.append`: the store after octets have been added to a file
* `FileFault`: why a path leads to no file
-/

namespace PlatformClient

/-- Why a path leads to no file. -/
inductive FileFaultKind where
  | missing
  | isDirectory
  | notDirectory
  | nameTooLong
  | nullCharacter
deriving DecidableEq

/-- A path that leads to no file, with the reason. -/
structure FileFault where
  kind : FileFaultKind
  path : String
deriving DecidableEq

/-- The wording of a fault. -/
def FileFault.message (fault : FileFault) : String :=
  let about (number : Nat) (wording : String) : String :=
    "[Errno " ++ number.repr ++ "] " ++ wording ++ ": " ++
      String.ofList (Text.quoted fault.path.toList)
  match fault.kind with
  | .missing => about 2 "No such file or directory"
  | .isDirectory => about 21 "Is a directory"
  | .notDirectory => about 20 "Not a directory"
  | .nameTooLong => about 36 "File name too long"
  | .nullCharacter => "embedded null byte"

/-- What a name leads to. -/
inductive FileEntry where
  | directory
  | file (content : Octets)
deriving DecidableEq

/-- The names that lead from the top directory to a place. Those to a place above it begin with
double dots, and those from the root with a slash. -/
abbrev FileTrail := List String

namespace FileTrail

/-- The root. -/
def root : FileTrail := ["/"]

/-- Whether a place is the top directory or one above it. -/
def isTop (trail : FileTrail) : Bool := trail.all (· == "..")

/-- The place one step back. -/
def parent (trail : FileTrail) : FileTrail :=
  if trail.isTop then trail ++ [".."] else if trail == root then trail else trail.dropLast

end FileTrail

/-- The entries of a store; the top directory, those above it and the root need none. -/
structure FileStore where
  entries : List (FileTrail × FileEntry)

namespace FileStore

/-- A store without files. -/
def empty : FileStore := ⟨[]⟩

/-- The entry at a place. -/
def entry? (store : FileStore) (trail : FileTrail) : Option FileEntry :=
  if trail.isTop || trail == .root then some .directory
  else (store.entries.find? (·.1 == trail)).map (·.2)

/-- The store with another entry at a place. -/
def put (trail : FileTrail) (entry : FileEntry) (store : FileStore) : FileStore :=
  ⟨(trail, entry) :: store.entries.filter (·.1 != trail)⟩

/-- The most octets of a name. -/
def nameLimit : Nat := 255

/-- The most octets of a path. -/
def pathLimit : Nat := 4095

/-- The place that names lead to from another. Empty names and single dots lead nowhere, double dots
one step back. -/
def walk (store : FileStore) (trail : FileTrail) : List String → Except FileFaultKind FileTrail
  | [] => .ok trail
  | name :: rest =>
    match store.entry? trail with
    | none => .error .missing
    | some (.file _) => .error .notDirectory
    | some .directory =>
      if name = "" ∨ name = "." then walk store trail rest
      else if name = ".." then walk store trail.parent rest
      else if nameLimit < (Utf8.encode name.toList).length then .error .nameTooLong
      else walk store (trail ++ [name]) rest

/-- The names of a path. -/
def names (path : String) : List String := (Text.splitOn '/' path.toList).map String.ofList

/-- What is wrong with a path whatever the store holds. -/
def pathFault? (path : String) : Option FileFaultKind :=
  if path.toList.contains '\x00' then some .nullCharacter
  else if path.isEmpty then some .missing
  else if pathLimit < (Utf8.encode path.toList).length then some .nameTooLong
  else none

/-- The place where a path begins. -/
def start (path : String) : FileTrail := if path.startsWith "/" then .root else []

/-- The trail that a path leads to. -/
def resolve (store : FileStore) (path : String) : Except FileFaultKind FileTrail :=
  match pathFault? path with
  | some kind => .error kind
  | none => store.walk (start path) (names path)

/-- The content of the file that a path leads to. -/
def read (store : FileStore) (path : String) : Except FileFault Octets :=
  match store.resolve path with
  | .error kind => .error ⟨kind, path⟩
  | .ok trail =>
    match store.entry? trail with
    | none => .error ⟨.missing, path⟩
    | some .directory => .error ⟨.isDirectory, path⟩
    | some (.file content) => .ok content

/-- A path without the slashes at its end. -/
def withoutSlashes (path : String) : String :=
  String.ofList (path.toList.reverse.dropWhile (· == '/')).reverse

/-- The place at which a path asks for a file to be written. With a slash at the end it asks for a
directory, as soon as there is one for it to be in. -/
def place (store : FileStore) (path : String) : Except FileFaultKind FileTrail := do
  if let some kind := pathFault? path then throw kind
  let directoryAsked := path.endsWith "/"
  let names := names (withoutSlashes path)
  let trail ← store.walk (start path) (if directoryAsked then names.dropLast else names)
  match store.entry? trail with
  | some .directory => .error .isDirectory
  | some (.file _) => if directoryAsked then .error .notDirectory else return trail
  | none => if directoryAsked then .error .missing else return trail

/-- The store after the file of a path has been opened for writing: it is there and empty. -/
def create (path : String) (store : FileStore) : Except FileFault (FileTrail × FileStore) :=
  match store.place path with
  | .error kind => .error ⟨kind, path⟩
  | .ok trail => .ok (trail, store.put trail (.file []))

/-- The store after octets have been added to the file at a place. -/
def append (trail : FileTrail) (data : Octets) (store : FileStore) : FileStore :=
  match store.entry? trail with
  | some (.file content) => store.put trail (.file (content ++ data))
  | _ => store.put trail (.file data)

/-- The store with all directories that names lead through, and the place they lead to. -/
def addDirectories : FileTrail → List String → FileStore → FileTrail × FileStore
  | trail, [], store => (trail, store)
  | trail, name :: rest, store =>
    if name = "" ∨ name = "." then addDirectories trail rest store
    else if name = ".." then addDirectories trail.parent rest store
    else addDirectories (trail ++ [name]) rest (store.put (trail ++ [name]) .directory)

/-- The store with a file and all directories that lead to it. -/
def addFile (store : FileStore) (file : String × Octets) : FileStore :=
  let (trail, opened) := addDirectories [] (names file.1).dropLast store
  opened.put (trail ++ (names file.1).getLast?.toList) (.file file.2)

/-- The store of some files. -/
def ofFiles (files : List (String × Octets)) : FileStore := files.foldl addFile empty

/-- The last name of a path: what stands behind its last slash. -/
def baseName (path : String) : String :=
  String.ofList (path.toList.reverse.takeWhile (· != '/')).reverse

end FileStore

end PlatformClient

import PlatformClient.Json.Display

/-!
# Kinds of media

The platform keeps four kinds of temporary media. Callers may name a kind by any value; only the
four names are known.

## Main definitions

* `MediaType`: the four kinds
* `MediaType.lookup?`: the kind a value names
* `MediaType.display`: a kind in log lines
-/

namespace PlatformClient

/-- The kinds of temporary media. -/
inductive MediaType where
  | image
  | voice
  | video
  | thumb
deriving DecidableEq

namespace MediaType

/-- All kinds. -/
def all : List MediaType := [image, voice, video, thumb]

/-- The name of a kind. -/
def name : MediaType → String
  | image => "image"
  | voice => "voice"
  | video => "video"
  | thumb => "thumb"

/-- The kind of a name. -/
def ofName? (name : String) : Option MediaType := all.find? (·.name == name)

/-- The kind a value names. -/
def lookup? : Json → Option MediaType
  | .string s => ofName? s
  | _ => none

/-- A kind in log lines. -/
def display (kind : MediaType) : String :=
  "<MediaType." ++ kind.name ++ ": " ++ String.ofList (Text.quoted kind.name.toList) ++ ">"

end MediaType

end PlatformClient

import PlatformClient.ContentType.Table
import PlatformClient.Text.Blank
import PlatformClient.Text.LetterCase
import PlatformClient.Text.Split

/-!
# Content types of files

The content type of a file is told by its name alone. A scheme in front of the name is cut off; a
name with the scheme `data` carries its type itself. Otherwise the extension decides, behind which a
suffix of compression does not count.

## Main definitions

* `ContentType.splitScheme`: the scheme of a name, in small letters, and the rest
* `ContentType.splitExtension`: a name without its extension, and the extension
* `ContentType.ofData?`: the type that a `data` name carries
* `ContentType.ofName?`: the type of a file by its name
* `ContentType.essence`: the type named by a header value, without its parameters
-/

namespace PlatformClient.ContentType

/-- The scheme in front of a name, in small letters, and the rest of the name. A scheme is not empty
and holds no slash. -/
def splitScheme (name : List Char) : Option (List Char) × List Char :=
  let isSchemeChar (c : Char) : Bool := c != '/' && c != ':'
  match name.takeWhile isSchemeChar, name.dropWhile isSchemeChar with
  | c :: scheme, ':' :: rest => (some (Text.lowercase (c :: scheme)), rest)
  | _, _ => (none, name)

/-- A name without its extension, and the extension with its point. The extension begins at the
last point of the last component; points at the front of the component do not count. -/
def splitExtension (name : List Char) : List Char × List Char :=
  let isExtensionChar (c : Char) : Bool := c != '.' && c != '/'
  let extension := name.reverse.takeWhile isExtensionChar
  match name.reverse.dropWhile isExtensionChar with
  | '.' :: front =>
    if (front.takeWhile (· != '/')).all (· == '.') then (name, [])
    else (front.reverse, '.' :: extension.reverse)
  | _ => (name, [])

/-- Extensions that stand for two, with those they stand for. -/
def doubleExtensions : List (String × String) :=
  [(".svgz", ".svg.gz"), (".tgz", ".tar.gz"), (".taz", ".tar.gz"), (".tz", ".tar.gz"),
    (".tbz2", ".tar.bz2"), (".txz", ".tar.xz")]

/-- Extensions of compression, in their exact case. -/
def compressions : List String := [".gz", ".Z", ".bz2", ".xz", ".br"]

/-- The type of an extension. -/
def ofExtension? (extension : List Char) : Option String :=
  let small := String.ofList (Text.lowercase extension)
  (table.find? fun row => row.2.contains small).map (·.1)

/-- A name with an extension that stands for two is split behind the first of them. -/
def splitDouble (parts : List Char × List Char) : List Char × List Char :=
  match doubleExtensions.lookup (String.ofList (Text.lowercase parts.2)) with
  | some double => splitExtension (parts.1 ++ double.toList)
  | none => parts

/-- A name whose extension is a compression is split at the extension before it. -/
def splitCompressed (parts : List Char × List Char) : List Char × List Char :=
  if compressions.contains (String.ofList parts.2) then splitExtension parts.1 else parts

/-- The type that a `data` name carries: what stands before the first semicolon or the comma, if it
is written like a type. Without a comma there is none. -/
def ofData? (rest : List Char) : Option (List Char) :=
  match Text.cut ',' rest with
  | (_, none) => none
  | (description, some _) =>
    let written := (Text.cut ';' description).1
    some (if written.contains '=' || !written.contains '/' then "text/plain".toList else written)

/-- The type of a file by its name. -/
def ofName? (name : List Char) : Option (List Char) :=
  match splitScheme name with
  | (some ['d', 'a', 't', 'a'], rest) => ofData? rest
  | (_, rest) =>
    (ofExtension? (splitCompressed (splitDouble (splitExtension rest))).2).map String.toList

/-- The type named by a header value: what stands before the first semicolon, trimmed, in small
letters. A missing header names the empty type. -/
def essence (header : Option String) : String :=
  String.ofList (Text.lowercase (Text.trim (Text.cut ';' (header.getD "").toList).1))

end PlatformClient.ContentType

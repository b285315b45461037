import PlatformClient.Fault
import PlatformClient.MediaType
import PlatformClient.Octets.Utf8
import PlatformClient.OrderStatus
import PlatformClient.Record.Datum
import PlatformClient.Redaction

/-!
# Log lines

A log call joins its arguments to one text, which is redacted and returned whatever happens to it.
The text goes to the logger if the severity reaches the configured threshold; the faults among the
arguments always do, each in a line of its own. If the logger refuses a line, everything is printed
instead. Under the level `local` everything is printed from the start.

Plain values are logged by their text. Records, secrets and named constants are logged as objects
of their kind; a secret is never shown.

## Main definitions

* `Severity`, `Channel`: how grave a text is, and the logger's channels
* `LogArgument`: what can be logged
* `LogArgument.ofJson`, `LogArgument.ofOctets`: plain values
* `LogArgument.ofRecord`, `LogArgument.ofSecret`: checked values
* `LogArgument.ofMediaType`, `LogArgument.ofOrderStatus`: named constants
* `LogArgument.ofFault`: faults
* `Log.compose`: the text of arguments
* `Emission`: a line that leaves the program
* `Log.report`: the text of a log call, and the lines it emits

## Main results

* `Log.emissions_of_hidden`: without faults a text below the threshold emits nothing
-/

namespace PlatformClient

/-- How grave a logged text is. -/
inductive Severity where
  | trace
  | debug
  | info
  | warn
  | error
deriving DecidableEq

namespace Severity

/-- The rank of a severity. -/
def rank : Severity → Nat
  | trace => 0
  | debug => 1
  | info => 2
  | warn => 3
  | error => 4

/-- The letter of a severity in printed lines. -/
def letter : Severity → String
  | trace => "T"
  | debug => "D"
  | info => "I"
  | warn => "W"
  | error => "E"

end Severity

/-- The channels of the logger. -/
inductive Channel where
  | debug
  | info
  | warning
  | error
deriving DecidableEq

/-- The channel for texts of a severity. -/
def Severity.channel : Severity → Channel
  | trace | debug => .debug
  | info => .info
  | warn => .warning
  | error => .error

/-- A fault as it is logged: the name of its kind, its text, and where it was raised, if known. -/
structure LoggedFault where
  kind : String
  report : String
  frames : Option (List String)

/-- What can be logged: a text, an object of some kind with the text that shows it, or a fault. -/
inductive LogArgument where
  | text (s : String)
  | object (kind shown : String)
  | fault (fault : LoggedFault)

namespace LogArgument

/-- A value of a document by its text. -/
def ofJson (value : Json) : LogArgument := .text value.display

/-- Octets in quotes. -/
def ofOctets (octets : Octets) : LogArgument := .text (String.ofList (Text.quotedOctets octets))

/-- A record under its title. -/
def ofRecord (datum : Record.Datum) : LogArgument :=
  .object datum.title (String.ofList datum.display)

/-- A secret, which is not shown. -/
def ofSecret (secret : String) : LogArgument :=
  .object "SecretStr" (String.ofList (Record.Datum.secret secret).display)

/-- A kind of media. -/
def ofMediaType (kind : MediaType) : LogArgument := .object "MediaType" kind.display

/-- A state of orders. -/
def ofOrderStatus (status : OrderStatus) : LogArgument := .object "OrderStatus" status.display

/-- A fault, and where it was raised, if known. -/
def ofFault (fault : Fault) (frames : Option (List String)) : LogArgument :=
  .fault ⟨fault.name, fault.report, frames⟩

end LogArgument

/-- A line that leaves the program. -/
inductive Emission where
  /-- A line given to the logger. -/
  | logger (channel : Channel) (line : String)
  /-- A line printed to the standard output. -/
  | output (line : String)
  /-- A line printed to the standard error output. -/
  | error (line : String)
deriving DecidableEq

/-- Whether the logger takes the line with a given index among those of one call. -/
abbrev Logger := Nat → Channel → Bool

/-- The text of a log call, and the lines it emits. -/
structure LogReport where
  text : String
  emissions : List Emission

namespace Log

/-- The level under which everything is printed. -/
def localLevel : String := "local"

/-- The rank from which on texts are shown under a level. -/
def threshold (level : String) : Nat :=
  match level with
  | "trace" => 0
  | "debug" => 1
  | "info" => 2
  | "warn" | "warning" => 3
  | "error" => 4
  | _ => 2

/-- Whether texts of a severity are shown under a level. -/
def isShown (level : String) (severity : Severity) : Bool :=
  level == localLevel || threshold level ≤ severity.rank

/-- One argument as a part of the text. -/
def part : LogArgument → String
  | .text s => s
  | .object kind shown => kind ++ ":\n```\n" ++ shown ++ "\n```"
  | .fault fault => "! " ++ fault.kind ++ " (see below)"

/-- The faults among arguments. -/
def faults (arguments : List LogArgument) : List LoggedFault :=
  arguments.filterMap fun
    | .fault fault => some fault
    | _ => none

/-- What stands before a further part. -/
def branch : String := "\n ├─ "

/-- What stands before the last part, if no faults follow. -/
def lastBranch : String := "\n └─ "

/-- Parts joined to a tree, which is closed unless something follows. -/
def tree (closed : Bool) (parts : List String) : String :=
  match parts with
  | [] => ""
  | [part] => part
  | parts =>
    if closed then branch.intercalate parts.dropLast ++ lastBranch ++ parts.getLastD ""
    else branch.intercalate parts

/-- The text of arguments. -/
def compose (settings : Settings) (arguments : List LogArgument) : String :=
  Redaction.redact settings (tree (faults arguments).isEmpty (arguments.map part))

/-- A text without blank ends. -/
def trimmed (s : String) : String := String.ofList (Text.trim s.toList)

/-- The lines given to the logger for a fault. -/
def faultLines (settings : Settings) (fault : LoggedFault) : List (Channel × String) :=
  (.error, "Message: " ++ Redaction.redact settings fault.report) ::
    match fault.frames with
    | none => []
    | some frames => [(.error, "Details:\n └─ " ++ trimmed (String.join frames))]

/-- The lines printed for a fault. -/
def printedFault (settings : Settings) (fault : LoggedFault) : List Emission :=
  .error (" ‼  Message: " ++ Redaction.redact settings fault.report) ::
    match fault.frames with
    | none => []
    | some frames => [.error (String.join (frames.map fun frame => "    " ++ trimmed frame))]

/-- Everything printed: the text if it is shown, and the faults. -/
def printed (settings : Settings) (severity : Severity) (shown : Bool) (text : String)
    (faults : List LoggedFault) : List Emission :=
  (if shown then [.output ("[" ++ severity.letter ++ "] " ++ text)] else []) ++
    faults.flatMap (printedFault settings)

/-- Everything for the logger: the text if it is shown, and the faults. -/
def planned (settings : Settings) (severity : Severity) (shown : Bool) (text : String)
    (faults : List LoggedFault) : List (Channel × String) :=
  (if shown then [(severity.channel, text)] else []) ++ faults.flatMap (faultLines settings)

/-- The lines that the logger takes before it refuses one. -/
def taken (logger : Logger) (lines : List (Channel × String)) : List (Channel × String) :=
  (lines.zipIdx.takeWhile fun (line, index) => logger index line.1).map (·.1)

/-- The lines that a log call emits. -/
def emissions (settings : Settings) (logger : Logger) (severity : Severity) (text : String)
    (faults : List LoggedFault) : List Emission :=
  let shown := isShown settings.logLevel severity
  let print := printed settings severity shown text faults
  if settings.logLevel == localLevel then print
  else
    let plan := planned settings severity shown text faults
    let done := taken logger plan
    done.map (fun line => .logger line.1 line.2) ++ if done.length < plan.length then print else []

/-- The text of a log call, and the lines it emits. -/
def report (settings : Settings) (logger : Logger) (severity : Severity)
    (arguments : List LogArgument) : LogReport :=
  let text := compose settings arguments
  ⟨text, emissions settings logger severity text (faults arguments)⟩

/-- Without faults a text below the threshold emits nothing. -/
theorem emissions_of_hidden {settings : Settings} {severity : Severity}
    (h : isShown settings.logLevel severity = false) (logger : Logger) (text : String) :
    emissions settings logger severity text [] = [] := by
  have hlocal : (settings.logLevel == localLevel) = false := by
    simp only [isShown, Bool.or_eq_false_iff] at h
    exact h.1
  simp [emissions, h, hlocal, planned, taken]

end Log

end PlatformClient

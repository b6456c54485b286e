import MessageRouting.Text.Blank
import MessageRouting.Value.Codec

/-!
# Log output

How log output looks and which events it shows, as it is configured.
-/

namespace MessageRouting

/-- The form of log output. -/
inductive LogFormat where
  | json
  | pretty
  | compact
deriving DecidableEq, Repr, Inhabited

namespace LogFormat

def name : LogFormat → String
  | json => "json"
  | pretty => "pretty"
  | compact => "compact"

def ofName? : String → Option LogFormat
  | "json" => some json
  | "pretty" => some pretty
  | "compact" => some compact
  | _ => none

end LogFormat

/-- What is wrong with the configuration of log output. -/
inductive LogFault where
  | unknownFormat (name : String)
  | invalidFilter
  | alreadyInitialized
deriving DecidableEq, Repr

/-- What is wrong, in words. -/
def LogFault.message : LogFault → String
  | unknownFormat name => "Configuration error: unknown log format '" ++ name ++ "'"
  | invalidFilter => "Configuration error: invalid filter"
  | alreadyInitialized => "Tracing already initialized"

def LogFormat.read (text : String) : Except LogFault LogFormat :=
  let name := Text.lowerAscii (Text.trim text)
  match ofName? name with
  | some format => .ok format
  | none => .error (.unknownFormat name)

structure LogConfig where
  filter : String := "info"
  format : LogFormat := .json
  withTarget : Bool := true
deriving DecidableEq, Repr, Inhabited

namespace LogConfig

def format? (document : Json) : Option LogFormat :=
  document.choice?.bind LogFormat.ofName?

def text? : Json → Option String
  | .string text => some text
  | _ => none

def truth? : Json → Option Bool
  | .bool value => some value
  | _ => none

/-- The member of a name, read by `read`; `standard` where there is none. Two members of one name
are refused. -/
def member (members : List (String × Json)) (name : String) (read : Json → Option α)
    (standard : α) : Option α :=
  match Json.members? name members with
  | [] => some standard
  | [document] => read document
  | _ => none

/-- The configuration that a document stands for: an object of the three settings, any of which may
be missing, or a list of the leading ones. Other members are ignored. -/
def ofDocument? (document : Json) : Option LogConfig := do
  let members ← match document with
    | .object members => some members
    | .array items =>
        if items.length ≤ 3 then some (["default_filter", "format", "with_target"].zip items)
        else none
    | _ => none
  let standard : LogConfig := {}
  return {
    filter := ← member members "default_filter" text? standard.filter
    format := ← member members "format" format? standard.format
    withTarget := ← member members "with_target" truth? standard.withTarget }

def read? (text : String) : Option LogConfig :=
  (Json.read? text).bind ofDocument?

end LogConfig

end MessageRouting

import MessageRouting.Failure
import MessageRouting.Text.Blank

/-!
# Log levels
-/

namespace MessageRouting

/-- How important an event is; `off` silences it. -/
inductive Level where
  | trace
  | debug
  | info
  | warn
  | error
  | off
deriving DecidableEq, Repr, Inhabited

namespace Level

def name : Level → String
  | trace => "trace"
  | debug => "debug"
  | info => "info"
  | warn => "warn"
  | error => "error"
  | off => "off"

/-- The place of a level, the least important first. -/
def rank : Level → Nat
  | trace => 0
  | debug => 1
  | info => 2
  | warn => 3
  | error => 4
  | off => 5

/-- The level that is taken where none is given. -/
def standard : Level := debug

/-- The level with the given name in lower case; `warning` is another name of `warn`. -/
def ofName? : String → Option Level
  | "trace" => some trace
  | "debug" => some debug
  | "info" => some info
  | "warn" | "warning" => some warn
  | "error" => some error
  | "off" => some off
  | _ => none

def read (text : String) : Except Failure Level :=
  let name := Text.lowerAscii (Text.trim text)
  match ofName? name with
  | some level => .ok level
  | none => .error (.invalidConfig ("unknown logging level '" ++ name ++ "'"))

end Level

end MessageRouting

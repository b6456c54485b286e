import MessageRouting.Observability.Format
import MessageRouting.Text.Numeral
import MessageRouting.Text.Split

/-!
# Log filters

A log filter is a list of directives, separated by commas. A directive is a
level, or a target, or a target with a span in brackets; behind a target or a
span, a level may follow an equals sign. A span may show a field in braces.
-/

namespace MessageRouting

namespace LogFilter

def isLevel (chars : List Char) : Bool :=
  match Text.readUnsigned Text.maxU64 chars with
  | some number => number ≤ 5
  | none =>
      ["off", "error", "warn", "info", "debug", "trace"].contains
        (Text.lowerAscii (String.ofList chars))

/-- What may follow an equals sign: a level or nothing. -/
def isLevelPart (chars : List Char) : Bool :=
  chars.isEmpty || isLevel chars

/-- What may follow a span: nothing, or a level behind an equals sign. -/
def isBehindSpan : List Char → Bool
  | [] => true
  | '=' :: level => isLevelPart level
  | _ => false

/-- What may follow the brace that opens the field of a span. -/
def isField (chars : List Char) : Bool :=
  match Text.splitOnce? '\x7d' chars with
  | some (field, ']' :: rest) => !field.isEmpty && isBehindSpan rest
  | _ => false

/-- What may follow the bracket that opens a span: a name, perhaps a field, and the closing
bracket. -/
def isSpan : List Char → Bool
  | [] => false
  | ']' :: rest => isBehindSpan rest
  | '\x7b' :: rest => isField rest
  | _ :: rest => isSpan rest

def isTargetRest : List Char → Bool
  | [] => true
  | '=' :: level => isLevelPart level
  | '[' :: rest => isSpan rest
  | _ :: rest => isTargetRest rest

/-- A target begins with a letter, a digit, or one of three signs. -/
def isTargetStart (c : Char) : Bool :=
  c.isAlphanum || c == '-' || c == ':' || c == '_' || 127 < c.val

def isDirective (chars : List Char) : Bool :=
  match Text.trimChars chars with
  | [] => false
  | '[' :: rest => isSpan rest
  | c :: rest => isTargetStart c && isTargetRest rest

/-- The text is a filter; empty directives are left out. -/
def isValid (text : String) : Bool :=
  ((Text.splitAt ',' text.toList).filter fun directive => !directive.isEmpty).all
    isDirective

end LogFilter

/-- Sets log output up where that was done before: the filter is checked first. -/
def LogConfig.initializeAgain (config : LogConfig) : LogFault :=
  if LogFilter.isValid config.filter then .alreadyInitialized else .invalidFilter

end MessageRouting

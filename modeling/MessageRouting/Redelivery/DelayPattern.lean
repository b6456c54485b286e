import MessageRouting.Duration
import MessageRouting.Failure
import MessageRouting.Text.Blank
import MessageRouting.Text.Numeral
import MessageRouting.Text.Split

/-!
# Delay patterns

A delay pattern lists thresholds with delays, as in `2:1000;5:5000`. The delay
before an attempt is that of the last group whose threshold the attempt has
reached; attempts before the first threshold are not delayed.
-/

namespace MessageRouting

/-- From the attempt `threshold` on, the delay is `delay`, in milliseconds. -/
structure DelayGroup where
  threshold : Nat
  delay : Nat
deriving DecidableEq, Repr, Inhabited

/-- The groups of a pattern, in the order in which they are written. -/
structure DelayPattern where
  groups : List DelayGroup
deriving DecidableEq, Repr, Inhabited

namespace DelayPattern

/-- What is wrong with a pattern. -/
inductive Fault where
  | noColon (group : String)
  | badThreshold (group : String)
  | badDelay (group : String)
  | notAscending
  | noGroups
deriving DecidableEq, Repr

/-- What is wrong, in words. -/
def Fault.message : Fault → String
  | noColon group => "group '" ++ group ++ "' is not 'count:delay'"
  | badThreshold group => "bad threshold in '" ++ group ++ "'"
  | badDelay group => "bad delay in '" ++ group ++ "'"
  | notAscending => "thresholds must be strictly ascending"
  | noGroups => "no groups"

/-- The group that a trimmed segment stands for: a 32-bit threshold and a 64-bit delay around the
first colon. -/
def readGroup (segment : List Char) : Except Fault DelayGroup :=
  match Text.splitOnce? ':' segment with
  | none => .error (.noColon (String.ofList segment))
  | some (threshold, delay) =>
      match Text.readUnsigned Text.maxU32 (Text.trimChars threshold) with
      | none => .error (.badThreshold (String.ofList segment))
      | some threshold =>
          match Text.readUnsigned Text.maxU64 (Text.trimChars delay) with
          | none => .error (.badDelay (String.ofList segment))
          | some delay => .ok ⟨threshold, delay⟩

def readGroups (previous : Option Nat) : List (List Char) → Except Fault (List DelayGroup)
  | [] => .ok []
  | segment :: rest => do
      let group ← readGroup segment
      match previous with
      | some threshold => if group.threshold ≤ threshold then .error .notAscending
      | none => pure ()
      let groups ← readGroups (some group.threshold) rest
      .ok (group :: groups)

/-- The segments of a text, trimmed; segments of blanks only are left out. -/
def segments (chars : List Char) : List (List Char) :=
  ((Text.splitAt ';' chars).map Text.trimChars).filter fun segment => !segment.isEmpty

/-- The pattern that a text stands for, or the first thing that is wrong with it. -/
def parse (chars : List Char) : Except Fault DelayPattern := do
  let groups ← readGroups none (segments chars)
  if groups.isEmpty then .error .noGroups else .ok ⟨groups⟩

def read (text : String) : Except Failure DelayPattern :=
  match parse text.toList with
  | .ok pattern => .ok pattern
  | .error fault =>
      .error (.invalidConfig ("invalid delay pattern '" ++ text ++ "': " ++ fault.message))

def reached (pattern : DelayPattern) (attempt : Nat) : List DelayGroup :=
  pattern.groups.takeWhile fun group => group.threshold ≤ attempt

def delayFor (pattern : DelayPattern) (attempt : Nat) : Nat :=
  ((pattern.reached attempt).getLast?.map DelayGroup.delay).getD 0

def showGroup (group : DelayGroup) : List Char :=
  Text.decimalDigits group.threshold ++ ':' :: Text.decimalDigits group.delay

/-- The groups as they are written, separated by semicolons. -/
def showGroups : List DelayGroup → List Char
  | [] => []
  | [group] => showGroup group
  | group :: rest => showGroup group ++ ';' :: showGroups rest

/-- The written form of a pattern. -/
def display (pattern : DelayPattern) : String :=
  String.ofList (showGroups pattern.groups)

end DelayPattern

end MessageRouting

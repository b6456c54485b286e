import MessageRouting.Command.Delays
import MessageRouting.Command.Simulation
import MessageRouting.Observability.Format
import MessageRouting.Json.Pretty

/-!
# Invocations

The command line names a command and gives options, each as a name with a value
behind it. A command reads the configuration file that it is given, if any, and
answers with a document.
-/

namespace MessageRouting

inductive Command where
  | delays (attempts : Nat)
  | simulate (simulation : Simulation)
deriving DecidableEq, Repr

structure Invocation where
  command : Command
  config : Option String := none
  logFormat : LogFormat := .json
deriving DecidableEq, Repr

/-- What is wrong with a command line. -/
inductive Invocation.Fault where
  | noCommand
  | unknownCommand (name : String)
  | unknownOption (name : String)
  | noValue (option : String)
  | badNumber (option text : String)
  | badFormat (fault : LogFault)
deriving DecidableEq, Repr

namespace Invocation

/-- What is wrong, in words. -/
def Fault.message : Fault → String
  | noCommand => "a command is missing: delays or simulate"
  | unknownCommand name => "unrecognized command '" ++ name ++ "'"
  | unknownOption name => "unexpected argument '" ++ name ++ "'"
  | noValue option => "a value is required for '" ++ option ++ "'"
  | badNumber option text => "invalid value '" ++ text ++ "' for '" ++ option ++ "'"
  | badFormat fault => fault.message

def splitArgument (argument : String) : List String :=
  match argument.toList with
  | '-' :: '-' :: _ =>
      match Text.splitOnce? '=' argument.toList with
      | some (name, value) => [String.ofList name, String.ofList value]
      | none => [argument]
  | _ => [argument]

def readCount (option text : String) : Except Fault Nat :=
  match Text.readUnsigned Text.maxU32 text.toList with
  | some count => .ok count
  | none => .error (.badNumber option text)

def withOption (invocation : Invocation) (option value : String) : Except Fault Invocation :=
  match option, invocation.command with
  | "--config", _ => .ok { invocation with config := some value }
  | "--log-format", _ =>
      match LogFormat.read value with
      | .ok format => .ok { invocation with logFormat := format }
      | .error fault => .error (.badFormat fault)
  | "--attempts", .delays _ => do
      return { invocation with command := .delays (← readCount option value) }
  | "--failures", .simulate simulation => do
      let count ← readCount option value
      return { invocation with command := .simulate { simulation with failures := count } }
  | "--messages", .simulate simulation => do
      let count ← readCount option value
      return { invocation with command := .simulate { simulation with messages := count } }
  | "--repeat", .simulate simulation => do
      let count ← readCount option value
      return { invocation with command := .simulate { simulation with repetitions := count } }
  | _, _ => .error (.unknownOption option)

def withOptions (invocation : Invocation) : List String → Except Fault Invocation
  | [] => .ok invocation
  | [option] => .error (.noValue option)
  | option :: value :: rest => do (← invocation.withOption option value).withOptions rest

def standard (name : String) : Except Fault Invocation :=
  match name with
  | "delays" => .ok { command := .delays 5 }
  | "simulate" => .ok { command := .simulate {} }
  | _ => .error (.unknownCommand name)

/-- Reads the arguments of a command line; the form of reports may stand before the command. -/
def read (arguments : List String) : Except Fault Invocation :=
  match arguments.flatMap splitArgument with
  | [] => .error .noCommand
  | "--log-format" :: value :: name :: rest => do
      ((← standard name).withOptions ("--log-format" :: value :: rest))
  | name :: rest => do (← standard name).withOptions rest

def answer (invocation : Invocation) (text : Option String) (chance : Nat) : Except Failure Json :=
  match invocation.command with
  | .delays attempts => RoutingConfig.delaySchedule text attempts chance
  | .simulate simulation => RoutingConfig.simulate text simulation chance

def report (invocation : Invocation) (failure : Failure) : String :=
  match invocation.logFormat with
  | .json =>
      Json.compact (.object
        [("level", .string "ERROR"),
          ("message", .string "Command failed"),
          ("error", .string failure.display)])
  | .pretty | .compact => "ERROR Command failed error=" ++ failure.display

end Invocation

end MessageRouting

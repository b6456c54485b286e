import MessageRouting.Command.Invocation

/-!
# The command line

Reads the configuration file, runs the command and prints its answer.
-/

namespace MessageRouting

def unreadableFile (path : String) : IO.Error → Failure
  | .noFileOrDirectory .. => RoutingConfig.missing path
  | error => RoutingConfig.unreadable path (toString error)

def readConfig (path : Option String) : IO (Except Failure (Option String)) :=
  match path with
  | none => return .ok none
  | some path =>
      try
        return .ok (some (← IO.FS.readFile path))
      catch error =>
        return .error (unreadableFile path error)

def Invocation.carryOut (invocation : Invocation) : IO UInt32 := do
  let chance ← IO.rand 0 4294967295
  match (← readConfig invocation.config) >>= fun text => invocation.answer text chance with
  | .ok answer =>
      IO.println answer.pretty
      return 0
  | .error failure =>
      IO.eprintln (invocation.report failure)
      return 1

end MessageRouting

/-- Runs the command that the arguments name. -/
def main (arguments : List String) : IO UInt32 :=
  match MessageRouting.Invocation.read arguments with
  | .ok invocation => invocation.carryOut
  | .error fault => do
      IO.eprintln ("error: " ++ fault.message)
      return 2

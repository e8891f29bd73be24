/-
The program: reads what the command line asks for, and writes what comes of it. It words refusals of patterns by
their causes.
-/
import CrawlFilter.Command.Outcome

namespace CrawlFilter

/-- what a path leads to; of the system's errors, 21 says that it is a directory, and 36 that a name in
it is too long -/
def openPath (path : String) : IO FileEntry := do
  try
    let content ← IO.FS.readBinFile path
    return .file content.toList
  catch
    | .noFileOrDirectory .. => return .closed .missing
    | .permissionDenied .. => return .closed .denied
    | .inappropriateType _ code _ => return if code = 21 then .directory else .closed .notDirectory
    | .invalidArgument _ code _ => return .closed (if code = 36 then .nameTooLong else .nulInName)
    | _ => return .closed .denied

/-- everything on standard input -/
partial def readAll (stream : IO.FS.Stream) (before : ByteArray) : IO ByteArray := do
  let more ← stream.read 65536
  if more.isEmpty then return before else readAll stream (before ++ more)

/-- the paths with what they lead to; all other paths lead nowhere -/
def filesOf (found : List (Text × FileEntry)) : Files :=
  fun path => (found.lookup path).getD (.closed .missing)

def runCommand [Wording] (args : List String) : IO UInt32 := do
  let keys := ["SIEVE_RULES", "SIEVE_SUFFIX_LIST"]
  let values ← keys.filterMapM fun name => do
    return (← IO.getEnv name).map fun value => (name.toList, value.toList)
  let env : Command.Environment := fun name => values.lookup name
  let args := args.map String.toList
  let outcome ← match Command.readArguments env args with
    | .error _ => pure (Command.run env (filesOf []) [] args)
    | .ok request => do
      let found ← request.paths.mapM fun path => do
        return (path, ← openPath (String.ofList path))
      let stdin ← if request.verb = .filter then readAll (← IO.getStdin) .empty else pure .empty
      pure (request.run (filesOf found) stdin.toList)
  (← IO.getStdout).putStr (String.ofList outcome.stdout)
  (← IO.getStderr).putStr (String.ofList outcome.stderr)
  return outcome.status.toUInt32

end CrawlFilter

def main (args : List String) : IO UInt32 :=
  letI : CrawlFilter.Wording := ⟨CrawlFilter.Regex.Refusal.words⟩
  CrawlFilter.runCommand args

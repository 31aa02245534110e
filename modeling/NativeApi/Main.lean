import NativeApi.Command

/-!
# The program

Reads the arguments and the configuration file, and prints what the command answers.
-/

namespace NativeApi

def fileErrorOf : IO.Error → FileError
  | .inappropriateType _ 21 _ => .isDirectory
  | .inappropriateType .. => .notDirectory
  | .invalidArgument .. => .nameTooLong
  | _ => .notFound

def readConfigFile (path : String) : IO (Except FileError String) := do
  match ← (IO.FS.readFile path).toBaseIO with
  | .ok text => return .ok text
  | .error e => return .error (fileErrorOf e)

def runCommand (arguments : List String) : IO UInt32 := do
  let outcome ←
    match Arguments.parse? arguments with
    | none => pure Outcome.usage
    | some a =>
      let contents ←
        match a.config with
        | some path => readConfigFile path
        | none => pure (.error .notFound)
      pure (a.execute fun _ => contents)
  IO.eprint outcome.warnings
  IO.print outcome.output
  return outcome.exitCode.toUInt32

end NativeApi

def main (arguments : List String) : IO UInt32 := NativeApi.runCommand arguments

import NativeApi.Arrangement
import NativeApi.Json.Reader

/-!
# Configuration

The settings of a pipeline, which are read from JSON.  Every setting has a default, so the empty
object is a configuration.
-/

namespace NativeApi

structure VerifyConfig where
  /-- The calling convention that functions are expected to use. -/
  defaultConvention : CallingConvention
  deriving DecidableEq

structure PipelineConfig where
  /-- Whether a run fails if an error remains. -/
  abortOnErrors : Bool
  /-- Whether broken declarations are extracted after verification. -/
  extractBroken : Bool
  verify : VerifyConfig
  deriving DecidableEq

/-- Functions are expected to use the C convention. -/
def VerifyConfig.default : VerifyConfig := ⟨.c⟩

/-- Errors neither fail a run nor leave the trees. -/
def PipelineConfig.default : PipelineConfig := ⟨false, false, .default⟩

open Json Reader

def CallingConvention.reader : Reader CallingConvention :=
  variant (CallingConvention.all.map CallingConvention.identifier)
    CallingConvention.ofIdentifier?

def VerifyConfig.reader : Reader VerifyConfig :=
  fields "struct VerifyConfig"
    [⟨"default_calling_convention", fun config => do
        let defaultConvention ← CallingConvention.reader
        return { config with defaultConvention }⟩]
    .default

def PipelineConfig.reader : Reader PipelineConfig :=
  fields "struct PipelineConfig"
    [⟨"abort_on_errors", fun config => do
        let abortOnErrors ← boolean
        return { config with abortOnErrors }⟩,
      ⟨"extract_broken_declarations", fun config => do
        let extractBroken ← boolean
        return { config with extractBroken }⟩,
      ⟨"verify", fun config => do
        let verify ← VerifyConfig.reader
        return { config with verify }⟩]
    .default

inductive FileError where
  | notFound
  | isDirectory
  | notDirectory
  | nameTooLong
  deriving DecidableEq

def FileError.text : FileError → String
  | notFound => "No such file or directory (os error 2)"
  | isDirectory => "Is a directory (os error 21)"
  | notDirectory => "Not a directory (os error 20)"
  | nameTooLong => "File name too long (os error 36)"

inductive ConfigError where
  | unreadable (path : String) (cause : FileError)
  | invalid (fault : Fault)

def ConfigError.message : ConfigError → String
  | unreadable path cause => "failed to read config file " ++ path ++ ": " ++ cause.text
  | invalid fault => "invalid config: " ++ fault.message

def PipelineConfig.ofJson (text : String) : Except ConfigError PipelineConfig :=
  (readAll PipelineConfig.reader text).mapError .invalid

end NativeApi

import NativeApi.Config
import NativeApi.Extraction
import NativeApi.LooseDeclarations
import NativeApi.TypedefStripping
import NativeApi.Verify.Pass

/-!
# Pipelines

Passes run one after the other.  No pass fails; a pipeline may be told to fail at the end if an
error is attached to a declaration, be it in the trees or among the broken declarations.

* `PassInstance`: a pass with the state that its last run left, and `PassInstance.run`.
* `Pipeline.ofConfig`: the pipeline that a configuration describes.
* `Pipeline.run`: the library after the last pass, or the failure, which carries that library.
-/

namespace NativeApi

/-! ## Instances of passes -/

/-- A pass of a pipeline, with the state that its last run left. -/
inductive PassInstance where
  | verify (config : VerifyConfig) (reported : Nat)
  | wrapLoose (wrapped : Nat)
  | extractBroken (extracted : List Decl)
  | stripTypedefs

namespace PassInstance

def freshVerify (config : VerifyConfig) : PassInstance := verify config 0

def freshWrapLoose : PassInstance := wrapLoose 0

def freshExtractBroken : PassInstance := extractBroken []

def name : PassInstance → String
  | verify config _ => (verification config.defaultConvention).name
  | wrapLoose _ => looseWrapping.name
  | extractBroken _ => extraction.name
  | stripTypedefs => typedefStripping.name

/-- Runs a pass; also the instance with the state that the run left. -/
def run (L : Library) : PassInstance → Library × PassInstance
  | verify config reported =>
    let (result, reported) := (verification config.defaultConvention).run L reported
    (result, verify config reported)
  | wrapLoose wrapped =>
    let (result, wrapped) := looseWrapping.run L wrapped
    (result, wrapLoose wrapped)
  | extractBroken extracted =>
    let (result, extracted) := extraction.run L extracted
    (result, extractBroken extracted)
  | stripTypedefs => ((typedefStripping.run L ()).1, stripTypedefs)

def reported : PassInstance → Nat
  | verify _ reported => reported
  | _ => 0

def wrapped : PassInstance → Nat
  | wrapLoose wrapped => wrapped
  | _ => 0

def runAll (L : Library) : List PassInstance → Library × List PassInstance
  | [] => (L, [])
  | p :: rest =>
    let (middle, p) := p.run L
    let (result, rest) := runAll middle rest
    (result, p :: rest)

end PassInstance

/-! ## Pipelines -/

structure Pipeline where
  passes : List PassInstance
  abortOnErrors : Bool

inductive PipelineError where
  | errorsRemain (count : Nat) (library : Library)

def PipelineError.message : PipelineError → String
  | errorsRemain count _ => toString count ++ " error(s) remain after verification"

def Library.totalErrorCount (L : Library) : Nat :=
  L.diagnostics.countP (·.diagnostic.isError)

namespace Pipeline

/-- The pipeline without passes, which never fails. -/
def empty : Pipeline := ⟨[], false⟩

/-- The pipeline that runs one more pass at its end. -/
def withPass (p : Pipeline) (pass : PassInstance) : Pipeline :=
  { p with passes := p.passes ++ [pass] }

/-- The pipeline that a configuration describes: loose declarations are wrapped, the library is
verified and, if so configured, broken declarations are extracted. -/
def ofConfig (config : PipelineConfig) : Pipeline :=
  { passes :=
      [.freshWrapLoose, .freshVerify config.verify]
        ++ if config.extractBroken then [.freshExtractBroken] else []
    abortOnErrors := config.abortOnErrors }

def default : Pipeline := ofConfig .default

def passNames (p : Pipeline) : List String := p.passes.map PassInstance.name

def run (p : Pipeline) (L : Library) : Except PipelineError Library × Pipeline :=
  let (result, passes) := PassInstance.runAll L p.passes
  let count := result.totalErrorCount
  let outcome :=
    if p.abortOnErrors && 0 < count then .error (.errorsRemain count result) else .ok result
  (outcome, { p with passes })

end Pipeline

end NativeApi

import NativeApi.Number.Shortest
import NativeApi.Text.Quoted

/-!
# Constants

The values that a parameter can have as its default.
-/

namespace NativeApi

inductive Constant where
  | integer (value : Int)
  | float (value : Binary64)
  | string (value : String)
  /-- An expression that the front end could not evaluate, and reported. -/
  | unsupported (spelling : String)
  deriving DecidableEq

namespace Constant

/-- Floating point constants are written positionally from `0.0001` up to, but not including,
`10 ^ 16`; ties go up. -/
def floatStyle : FloatStyle := ⟨.up, -4, 15, false⟩

def text : Constant → String
  | integer value => toString value
  | float value => floatStyle.text value
  | string value => Text.quote value
  | unsupported spelling => "<unsupported `" ++ spelling ++ "`>"

/-- Equality as the target's language sees it: floating point numbers compare as numbers. -/
def same : Constant → Constant → Bool
  | float x, float y => x.same y
  | a, b => a = b

example : (float ⟨0x3ff8000000000000⟩).text = "1.5" := by decide +kernel
example : (float ⟨0x4341c37937e08000⟩).text = "1e16" := by decide +kernel
example : (float ⟨0x8000000000000000⟩).text = "-0.0" := by decide +kernel
example : (float ⟨0x3f1a36e2eb1c432d⟩).text = "0.0001" := by decide +kernel
example : (float ⟨0x3ee4f8b588e368f1⟩).text = "1e-5" := by decide +kernel

end Constant

end NativeApi

import NativeApi.Verify.Issue

/-!
# Rules for calls

What the target may handle wrongly in the arrangement of a function: a convention other than the
default, arguments on an implicit stack, details that the arrangement does not show, and
aggregates that are split into parts.
-/

namespace NativeApi

/-- The words for an argument of a function.  Argument 0 of an instance method is the receiver,
so its parameters count from argument 1. -/
def Callable.argumentName (f : Callable Decl) (functionName : String) (index : Nat) : String :=
  if f.isInstance && index = 0 then "this pointer parameter"
  else
    let position := if f.isInstance then index - 1 else index
    let numbered := "parameter #" ++ toString position
    let name := (f.parameters[position]?.map Decl.name).getD ""
    if name = "" then numbered ++ " of " ++ Issue.ticked functionName
    else numbered ++ " " ++ Issue.ticked name

namespace Arrangement

/-- The issue of a convention, as called or as effective, that is not the default. -/
def conventionIssues (a : Arrangement) (default : CallingConvention) : List Issue :=
  if a.convention = default ∧ a.effective = default then []
  else [.nonDefaultConvention a.convention a.effective]

def declaredIssues (a : Arrangement) : List Issue :=
  match a.declared with
  | .known _ => []
  | .unrecognized spelling => [.unrecognizedConvention spelling]

def argumentIssues (a : Arrangement) (nameOf : Nat → String) : List Issue :=
  a.arguments.zipIdx.filterMap fun (passed, index) =>
    if passed.isExpanded then some (.expandedArgument (nameOf index) passed) else none

def issues (a : Arrangement) (default : CallingConvention) (nameOf : Nat → String) :
    List Issue :=
  a.conventionIssues default ++ a.declaredIssues
    ++ (if a.usesInAlloca then [.inAllocaArguments] else [])
    ++ (if a.hasExtendedInfo then [.extendedInfo] else [])
    ++ (if a.result.isExpanded then [.expandedResult a.result] else [])
    ++ a.argumentIssues nameOf

end Arrangement

end NativeApi

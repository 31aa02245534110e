import NativeApi.Verify.References
import NativeApi.Verify.Rules

/-!
# Verification

The pass that makes a library representable in the target.  Each declaration is repaired and
gets a diagnostic for every finding; then the references of the whole library are checked.

The accessibility is looked at where every declaration comes in, the place and the name of a field
where every field comes in, and the rest by the hook for the kind.  Each of the three is given the
declaration as the one before left it.

* `verification`: the pass.  Its state is the number of findings of the run.
* `verify`: one run.
* `Context.check`: the repair and the findings of all three at once.
-/

namespace NativeApi

/-- The container of an enum that needs one.  It stands in the place of the enum. -/
def enumContainer (id : DeclId) (d : Decl) : Decl :=
  { Decl.ofKind id d.name d.file (.container .looseDeclarations [d]) with
    scope := d.scope
    accessibility := d.accessibility }

namespace Verification

/-- A declaration with a diagnostic for each finding.  The findings are counted. -/
def report (issues : List Issue) (d : Decl) : PassM Nat Decl := do
  PassM.update (· + issues.countP Issue.isCounted)
  return { d with diagnostics := Issue.attachAll d.diagnostics issues }

def checkMember (ctx : Context) (d : Decl) : PassM Nat Decl :=
  report (ctx.memberIssues d) (ctx.renamed d)

def hook (default : CallingConvention) (kind : Kind Decl) : Handler Nat := fun ctx d =>
  match kind with
  | .record r => return .replace (← report (Context.recordIssues r) d)
  | .enumeration e => do
    let checked ← report (ctx.enumIssues d.name e)
      { d with kind := .enumeration { e with isLoose := ctx.repairedLoose e } }
    if ctx.wrapsEnum e then
      return .replace (enumContainer (← PassM.freshId) checked)
    else return .replace checked
  | .enumConstant .. => return .replace (← report ctx.enumConstantIssues d)
  | .function f =>
    let metadata :=
      if Context.losesErrorCode d f then d.metadata.erase .setLastError else d.metadata
    return .replace (← report (ctx.functionIssues default d f) { d with metadata })
  | .parameter type value =>
    return .replace (← report (ctx.parameterIssues type value)
      { d with kind := .parameter type (ctx.repairedDefault type value) })
  | .field _ content => return .replace (← report (ctx.contentIssues d.id content) d)
  | .staticField .. => return .replace (← checkMember ctx d)
  | .vtable _ =>
    let issues := if ctx.designates .vtable d.id then [] else [.undesignatedVTable]
    return .replace (← report issues d)
  | .unsupported what => return .replace (← report [.unsupportedDeclaration what] d)
  | .typedef _ | .undefinedRecord | .container .. => return .unchanged

/-- The rules for members come before those for what a field holds. -/
def field (default : CallingConvention) (offset : Nat) (content : FieldContent) :
    Handler Nat := fun ctx d => do
  let checked ← checkMember ctx d
  return (← hook default (.field offset content) ctx checked).orReplace checked

/-- The rules for accessibility come before all others. -/
def decl (default : CallingConvention) : Handler Nat := fun ctx d => do
  let checked ← report (ctx.accessibilityIssues d)
    { d with accessibility := ctx.repairedAccessibility d }
  return (← dispatch (hook default) (field default) ctx checked).orReplace checked

end Verification

def verification (default : CallingConvention) : Pass Nat where
  name := "verify"
  before _ _ := 0
  hook := Verification.hook default
  field := Verification.field default
  decl := Verification.decl default
  after L found := ((danglingReferences.run L ()).1, found)

def verify (default : CallingConvention) (L : Library) : Library :=
  ((verification default).run L 0).1

/-- A declaration repaired, with a diagnostic for each finding. -/
def Context.check (ctx : Context) (default : CallingConvention) (d : Decl) : Decl :=
  { ctx.repair d with
    diagnostics := Issue.attachAll d.diagnostics (ctx.issues default d) }

/-- Whether a declaration is an enum that needs a container. -/
def Context.needsContainer (ctx : Context) (d : Decl) : Bool :=
  match d.kind with
  | .enumeration e => ctx.wrapsEnum e
  | _ => false

end NativeApi

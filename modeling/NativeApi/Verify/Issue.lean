import NativeApi.Decl.Basic

/-!
# Issues

What verification can find wrong with a declaration.  An issue becomes a diagnostic: an error
where the declaration cannot be emitted, and a warning where it was repaired or may be handled
wrongly.

* `Issue.diagnostic`: the severity and the wording.
* `Issue.attach`: how an issue joins the diagnostics of a declaration.  A fallback speaks only for
  a declaration that has no error yet; any other issue is attached once.
-/

namespace NativeApi

inductive Issue where
  | invalidRootAccessibility (accessibility : Accessibility)
  | protectedAccessibility (accessibility : Accessibility)
  | enumWrapped (name : String)
  | looseConstantsMisplaced
  | invalidEnumType (type : TypeRef)
  | enumConstantOutsideEnum
  | functionMisplaced
  | virtualSetLastError
  | missingArrangement
  | nonDefaultConvention (convention effective : CallingConvention)
  | unrecognizedConvention (spelling : String)
  | inAllocaArguments
  | extendedInfo
  | expandedResult (passed : ArgumentClass)
  | expandedArgument (argument : String) (passed : ArgumentClass)
  | parameterOutsideFunction
  | stringDefault
  | ineligibleDefault (type : TypeRef)
  | unrepresentedMembers (count : Nat)
  | unpairedVTable
  | missingDesignated (slot : Slot)
  | invalidBitFieldType (type : TypeRef)
  | fieldMisplaced (kindName : String)
  | fieldRenamed (newName : String)
  | undesignatedBaseField
  | undesignatedVTable
  | unimplementedField (what : String)
  | unsupportedDeclaration (what : String)
  | unresolvedReference (name : String)
  deriving DecidableEq

namespace Issue

def severity : Issue → Severity
  | enumConstantOutsideEnum | functionMisplaced | missingArrangement | parameterOutsideFunction
  | unpairedVTable | missingDesignated _ | invalidBitFieldType _ | fieldMisplaced _
  | undesignatedBaseField | undesignatedVTable | unsupportedDeclaration _
  | unresolvedReference _ => .error
  | invalidRootAccessibility _ | protectedAccessibility _ | enumWrapped _
  | looseConstantsMisplaced | invalidEnumType _ | virtualSetLastError | nonDefaultConvention ..
  | unrecognizedConvention _ | inAllocaArguments | extendedInfo | expandedResult _
  | expandedArgument .. | stringDefault | ineligibleDefault _ | unrepresentedMembers _
  | fieldRenamed _ | unimplementedField _ => .warning

def ticked (s : String) : String := "`" ++ s ++ "`"

def message : Issue → String
  | invalidRootAccessibility accessibility =>
    ticked accessibility.text ++ " accessibility is not valid at root scope; changed to internal"
  | protectedAccessibility accessibility =>
    ticked accessibility.text
      ++ " accessibility has no equivalent in the target scope; changed to internal"
  | enumWrapped name =>
    "enum " ++ ticked name ++ " cannot be translated as an enum or as loose constants in this "
      ++ "context; wrapped in a synthesized container"
  | looseConstantsMisplaced =>
    "loose constants are not valid in this context; translated as a real enum instead"
  | invalidEnumType type =>
    ticked type.text
      ++ " is not a valid enum underlying type; translated as loose constants instead"
  | enumConstantOutsideEnum => "enum constants must be children of an enum"
  | functionMisplaced =>
    "functions must be members of a record or a loose-declarations container"
  | virtualSetLastError =>
    "virtual methods cannot capture the platform error code; the marker was ignored"
  | missingArrangement => "function is missing ABI information and cannot be called"
  | nonDefaultConvention convention effective =>
    "function uses the " ++ ticked convention.text ++ " calling convention (effective "
      ++ ticked effective.text ++ "), which may not be handled correctly"
  | unrecognizedConvention spelling =>
    "function uses unrecognized calling convention " ++ ticked spelling
  | inAllocaArguments =>
    "function passes arguments through an implicit stack allocation (inalloca), which may not "
      ++ "be handled correctly"
  | extendedInfo =>
    "function has extended parameter ABI information, which may not be handled correctly"
  | expandedResult passed =>
    "return value is passed via " ++ ticked passed.text
      ++ ", which may not be handled correctly"
  | expandedArgument argument passed =>
    argument ++ " is passed via " ++ ticked passed.text ++ ", which may not be handled correctly"
  | parameterOutsideFunction => "parameters must be children of a function"
  | stringDefault => "string default values are not supported; the default value was removed"
  | ineligibleDefault type =>
    "parameters of type " ++ ticked type.text
      ++ " cannot have a default value; the default value was removed"
  | unrepresentedMembers count =>
    "record has " ++ toString count ++ " member(s) that could not be translated"
  | unpairedVTable => "record must have both a vtable and a vtable pointer field, or neither"
  | missingDesignated slot => "designated " ++ slot.text ++ " is not a member of this record"
  | invalidBitFieldType type =>
    "bitfield type " ++ ticked type.text
      ++ " is not an integral, boolean, or integral-backed enum type"
  | fieldMisplaced kindName =>
    kindName ++ "s must be members of a record or a loose-declarations container"
  | fieldRenamed newName =>
    "field has the same name as its enclosing type; renamed to " ++ ticked newName
  | undesignatedBaseField =>
    "base field is not the designated non-virtual base of its record"
  | undesignatedVTable => "vtable is not the designated vtable of its parent record"
  | unimplementedField what => ticked what ++ " fields are not supported"
  | unsupportedDeclaration what => what ++ " declarations are not supported"
  | unresolvedReference name =>
    "type reference " ++ ticked name ++ " does not resolve to a declaration"

def diagnostic (issue : Issue) : Diagnostic := ⟨issue.severity, issue.message⟩

/-- The issues that only explain why a declaration without another error is broken. -/
def isFallback : Issue → Bool
  | missingArrangement | unsupportedDeclaration _ => true
  | _ => false

/-- Whether an issue counts as reported.  That a declaration is unsupported was reported by the
front end. -/
def isCounted : Issue → Bool
  | unsupportedDeclaration _ => false
  | _ => true

def attach (ds : Diagnostics) (issue : Issue) : Diagnostics :=
  if issue.isFallback then ds.ensureAnyError issue.message else ds.ensure issue.diagnostic

def attachAll (ds : Diagnostics) (issues : List Issue) : Diagnostics := issues.foldl attach ds

theorem attachAll_append (ds : Diagnostics) (first rest : List Issue) :
    attachAll ds (first ++ rest) = attachAll (attachAll ds first) rest := List.foldl_append

theorem isPrefix_attach (ds : Diagnostics) (issue : Issue) : ds <+: attach ds issue := by
  unfold attach
  split
  · exact Diagnostics.isPrefix_ensureAnyError _ _
  · exact Diagnostics.isPrefix_ensure _ _

theorem isPrefix_attachAll (ds : Diagnostics) (issues : List Issue) :
    ds <+: attachAll ds issues := by
  induction issues generalizing ds with
  | nil => exact List.prefix_refl ds
  | cons issue issues ih => exact (isPrefix_attach ds issue).trans (ih (attach ds issue))

end Issue

end NativeApi

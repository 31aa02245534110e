import NativeApi.Pass.Context
import NativeApi.Verify.CallRules
import NativeApi.Verify.FieldNames
import NativeApi.Verify.Representable

/-!
# Rules for declarations

What verification finds in a declaration and what it repairs.  The rules look at the declaration,
whose children were verified before, and at its place, which is described by the library before
verification.

* `Context.issues`: the findings, in the order in which they are attached.
* `Context.repair`: the declaration with its accessibility, its name, its metadata, the form of an
  enum and the default of a parameter repaired.
* `Context.wrapsEnum`: whether an enum can be neither a real enum nor loose constants in its
  place, so that it needs a container of its own.
-/

namespace NativeApi.Context

/-! ## Accessibility -/

def accessibilityIssues (ctx : Context) (d : Decl) : List Issue :=
  if ctx.isRoot && !d.accessibility.isRootLevel then [.invalidRootAccessibility d.accessibility]
  else if d.accessibility.isProtected then [.protectedAccessibility d.accessibility]
  else []

/-- A level that the place of a declaration does not allow becomes internal. -/
def repairedAccessibility (ctx : Context) (d : Decl) : Accessibility :=
  if (ctx.isRoot && !d.accessibility.isRootLevel) || d.accessibility.isProtected then
    .internalAccess
  else d.accessibility

/-! ## Records and enums -/

def recordIssues (r : Record Decl) : List Issue :=
  (if r.unsupported.isEmpty then [] else [.unrepresentedMembers r.unsupported.length])
    ++ (if r.isPaired then [] else [.unpairedVTable])
    ++ Slot.all.filterMap fun slot =>
      match r.handle slot with
      | none => none
      | some id =>
        if r.members.any fun m => m.id = id && m.fills slot then none
        else some (.missingDesignated slot)

/-- Whether an enum can be neither a real enum nor loose constants. -/
def wrapsEnum (ctx : Context) (e : Enumeration Decl) : Bool :=
  !ctx.hostsMembers && !ctx.library.isEnumType e.type

def enumIssues (ctx : Context) (name : String) (e : Enumeration Decl) : List Issue :=
  if ctx.wrapsEnum e then [.enumWrapped name]
  else if e.isLoose && !ctx.hostsMembers then [.looseConstantsMisplaced]
  else if !e.isLoose && !ctx.library.isEnumType e.type then [.invalidEnumType e.type]
  else []

/-- Whether an enum has the form of loose constants after the repair. -/
def repairedLoose (ctx : Context) (e : Enumeration Decl) : Bool :=
  if ctx.wrapsEnum e then true
  else if e.isLoose && !ctx.hostsMembers then false
  else if !e.isLoose && !ctx.library.isEnumType e.type then true
  else e.isLoose

def enumConstantIssues (ctx : Context) : List Issue :=
  match ctx.parent?.map Decl.kind with
  | some (.enumeration _) => []
  | _ => [.enumConstantOutsideEnum]

/-! ## Functions and parameters -/

/-- Whether a virtual function asks for the platform error code, which it cannot have. -/
def losesErrorCode (d : Decl) (f : Callable Decl) : Bool :=
  f.isVirtual && d.metadata.has .setLastError

def functionIssues (ctx : Context) (default : CallingConvention) (d : Decl)
    (f : Callable Decl) : List Issue :=
  (if ctx.hostsMembers then [] else [.functionMisplaced])
    ++ (if losesErrorCode d f then [.virtualSetLastError] else [])
    ++ match f.arrangement with
      | none => [.missingArrangement]
      | some a => a.issues default (f.argumentName d.name)

def parameterIssues (ctx : Context) (type : TypeRef) (value : Option Constant) : List Issue :=
  (match ctx.parent?.map Decl.kind with
    | some (.function _) => []
    | _ => [.parameterOutsideFunction])
    ++ match value with
      | some (.string _) => [.stringDefault]
      | some (.integer _) | some (.float _) =>
        if ctx.library.allowsDefault type then [] else [.ineligibleDefault type]
      | some (.unsupported _) | none => []

/-- The default of a parameter that remains: a number on a type that allows it.  What the front
end could not evaluate is dropped in silence, since the front end reported it. -/
def repairedDefault (ctx : Context) (type : TypeRef) (value : Option Constant) :
    Option Constant :=
  match value with
  | some (.integer _) | some (.float _) =>
    if ctx.library.allowsDefault type then value else none
  | some (.string _) | some (.unsupported _) | none => none

/-! ## Fields and vtables -/

def memberIssues (ctx : Context) (d : Decl) : List Issue :=
  (if ctx.hostsMembers then [] else [.fieldMisplaced d.kind.name])
    ++ match ctx.disambiguatedName? d with
      | some newName => [.fieldRenamed newName]
      | none => []

/-- A field of any kind under the name that it has after the repair.  A renamed field keeps its old
name in its metadata. -/
def renamed (ctx : Context) (d : Decl) : Decl :=
  { d with
    name := (ctx.disambiguatedName? d).getD d.name
    metadata := match ctx.disambiguatedName? d with
      | some _ => d.metadata.insert (.formerName d.name)
      | none => d.metadata }

/-- Whether the record around a declaration designates it for a slot. -/
def designates (ctx : Context) (slot : Slot) (id : DeclId) : Bool :=
  match ctx.parent?.bind Decl.record? with
  | some r => r.handle slot = some id
  | none => false

def contentIssues (ctx : Context) (id : DeclId) : FieldContent → List Issue
  | .normal _ | .vtablePointer => []
  | .base _ => if ctx.designates .baseField id then [] else [.undesignatedBaseField]
  | .bits _ _ type => if ctx.library.isBitFieldType type then [] else [.invalidBitFieldType type]
  | .unimplemented what _ => [.unimplementedField what]

/-! ## All kinds -/

def kindIssues (ctx : Context) (default : CallingConvention) (d : Decl) : List Issue :=
  match d.kind with
  | .record r => recordIssues r
  | .enumeration e => ctx.enumIssues d.name e
  | .enumConstant .. => ctx.enumConstantIssues
  | .function f => ctx.functionIssues default d f
  | .parameter type value => ctx.parameterIssues type value
  | .field _ content => ctx.memberIssues d ++ ctx.contentIssues d.id content
  | .staticField .. => ctx.memberIssues d
  | .vtable _ => if ctx.designates .vtable d.id then [] else [.undesignatedVTable]
  | .unsupported what => [.unsupportedDeclaration what]
  | .typedef _ | .undefinedRecord | .container .. => []

def issues (ctx : Context) (default : CallingConvention) (d : Decl) : List Issue :=
  ctx.accessibilityIssues d ++ ctx.kindIssues default d

def repairedKind (ctx : Context) : Kind Decl → Kind Decl
  | .enumeration e => .enumeration { e with isLoose := ctx.repairedLoose e }
  | .parameter type value => .parameter type (ctx.repairedDefault type value)
  | k => k

/-- The new name of a declaration, if it is a field that has to be renamed. -/
def newName? (ctx : Context) (d : Decl) : Option String :=
  match d.kind with
  | .field .. | .staticField .. => ctx.disambiguatedName? d
  | _ => none

def repairedName (ctx : Context) (d : Decl) : String := (ctx.newName? d).getD d.name

/-- The metadata of a declaration after the repair: a renamed field keeps its old name there, and
a virtual function loses the marker that it cannot honour. -/
def repairedMetadata (ctx : Context) (d : Decl) : Metadata :=
  match ctx.newName? d with
  | some _ => d.metadata.insert (.formerName d.name)
  | none =>
    match d.kind with
    | .function f =>
      if losesErrorCode d f then d.metadata.erase .setLastError else d.metadata
    | _ => d.metadata

def repair (ctx : Context) (d : Decl) : Decl :=
  { d with
    name := ctx.repairedName d
    accessibility := ctx.repairedAccessibility d
    metadata := ctx.repairedMetadata d
    kind := ctx.repairedKind d.kind }

end NativeApi.Context

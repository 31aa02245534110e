import NativeApi.Library.Basic
import NativeApi.Decl.Edit

/-!
# Building libraries

Calls that make declarations with fresh ids.  A declaration belongs to the file that was added
last; if none was added, a file `<unknown>` is.

Calls are data: a call that makes a declaration keeps it in a register under a name, and later
calls take children from registers.

* `BuilderCall.run`: one call.
* `Builder.library`: the library that was built.
-/

namespace NativeApi

structure Builder where
  files : List String
  ids : IdSource
  roots : List Decl

namespace Builder

def empty : Builder := ⟨[], .fresh, []⟩

def addFile (b : Builder) (path : String) : FileIndex × Builder :=
  (b.files.length, { b with files := b.files ++ [path] })

/-- The file that was added last, which there is after this call. -/
def currentFile (b : Builder) : FileIndex × Builder :=
  if b.files.isEmpty then b.addFile "<unknown>" else (b.files.length - 1, b)

def freshId (b : Builder) : DeclId × Builder :=
  let (id, ids) := b.ids.take
  (id, { b with ids })

def make (b : Builder) (name : String) (kind : Kind Decl) : Decl × Builder :=
  let (file, b) := b.currentFile
  let (id, b) := b.freshId
  (Decl.ofKind id name file kind, b)

def push (b : Builder) (d : Decl) : DeclId × Builder :=
  (d.id, { b with roots := b.roots ++ [d] })

def library (b : Builder) : Library := Library.ofRoots b.files b.roots b.ids.next

end Builder

/-! ## Kinds of new declarations -/

namespace Kind

/-- A record whose handles designate the first members that may fill their slots. -/
def newRecord (members : List Decl) : Kind Decl :=
  record ((Record.ofMembers members).mapHandles fun _ slot =>
    (members.find? (·.fills slot)).map Decl.id)

/-- A function that is called directly with its parameters. -/
def newFunction (name : String) (parameters : List Decl) : Kind Decl :=
  function ⟨name, .void, false, false, some (.direct parameters.length), parameters⟩

/-- A method that is called directly with the receiver and its parameters. -/
def newMethod (name : String) (parameters : List Decl) : Kind Decl :=
  function ⟨name, .void, false, true, some (.direct (parameters.length + 1)), parameters⟩

end Kind

/-- What a call makes, with registers for the declarations inside it. -/
inductive DeclSpec where
  | record (name : String) (members : List String)
  | container (name : String) (role : ContainerRole) (members : List String)
  | function (name : String) (parameters : List String)
  | method (name : String) (parameters : List String)
  | enumeration (name : String) (type : TypeRef) (constants : List String)
  | undefinedRecord (name : String)
  | field (name : String) (offset : Nat) (type : TypeRef)
  | baseField (offset : Nat) (type : TypeRef)
  | vtableField
  | bitField (name : String) (offset width : Nat) (type : TypeRef)
  | unimplementedField (name : String) (offset : Nat) (what : String)
  | staticField (name : String) (type : TypeRef)
  | vtable (entries : List VTableEntry)
  | parameter (name : String) (type : TypeRef)
  | enumConstant (name : String) (value : Nat)
  | typedef (name : String) (type : TypeRef)
  | unsupported (name what : String)
  /-- A declaration of any kind. -/
  | any (name : String) (kind : Kind Decl)

namespace DeclSpec

def name : DeclSpec → String
  | record name _ | container name .. | function name _ | method name _ | enumeration name ..
  | undefinedRecord name | field name .. | bitField name .. | unimplementedField name ..
  | staticField name _ | parameter name _ | enumConstant name _ | typedef name _
  | unsupported name _ | any name _ => name
  | baseField .. => "Base"
  | vtableField => "VirtualMethodTablePointer"
  | vtable _ => "VirtualMethodTable"

def kind (take : List String → List Decl) : DeclSpec → Kind Decl
  | record _ members => .newRecord (take members)
  | container _ role members => .container role (take members)
  | function name parameters => .newFunction name (take parameters)
  | method name parameters => .newMethod name (take parameters)
  | enumeration _ type constants => .enumeration ⟨type, false, take constants⟩
  | undefinedRecord _ => .undefinedRecord
  | field _ offset type => .field offset (.normal type)
  | baseField offset type => .field offset (.base type)
  | vtableField => .field 0 .vtablePointer
  | bitField _ offset width type => .field offset (.bits 0 width type)
  | unimplementedField _ offset what => .field offset (.unimplemented what 0)
  | staticField name type => .staticField name type
  | vtable entries => .vtable entries
  | parameter _ type => .parameter type none
  | enumConstant _ value => .enumConstant value true
  | typedef _ type => .typedef type
  | unsupported _ what => .unsupported what
  | any _ kind => kind

/-- The diagnostics of the declaration that a call makes: why a construct is unsupported is
always explained. -/
def diagnostics : DeclSpec → Diagnostics
  | unsupported _ what => [⟨.error, what ++ " declarations are not supported"⟩]
  | _ => []

end DeclSpec

/-! ## Calls -/

/-- Declarations by name, the latest first. -/
abbrev Registers := List (String × Decl)

def Registers.get? (registers : Registers) (name : String) : Option Decl :=
  (registers.find? (·.1 = name)).map (·.2)

/-- The declarations in registers; an empty register gives none. -/
def Registers.takeAll (registers : Registers) (names : List String) : List Decl :=
  names.filterMap registers.get?

inductive BuilderCall where
  | addFile (path : String)
  | freshId
  /-- Make a declaration and keep it in a register. -/
  | make (register : String) (spec : DeclSpec)
  /-- Keep a changed copy of the declaration in another register. -/
  | change (register source : String) (edits : List Edit)
  /-- Add the declaration in a register as a root. -/
  | push (register : String)

inductive BuilderAnswer where
  | file (file : FileIndex)
  | id (id : DeclId)
  | decl (d : Decl)
  | nothing

def Builder.makeSpec (b : Builder) (registers : Registers) (spec : DeclSpec) :
    Decl × Builder :=
  let (d, b) := b.make spec.name (spec.kind registers.takeAll)
  ({ d with diagnostics := spec.diagnostics }, b)

namespace BuilderCall

def run (b : Builder) (registers : Registers) : BuilderCall →
    BuilderAnswer × Builder × Registers
  | addFile path =>
    let (file, b) := b.addFile path
    (.file file, b, registers)
  | freshId =>
    let (id, b) := b.freshId
    (.id id, b, registers)
  | make register spec =>
    let (d, b) := b.makeSpec registers spec
    (.decl d, b, (register, d) :: registers)
  | change register source edits =>
    match registers.get? source with
    | some d =>
      let d := edits.foldl Edit.apply d
      (.decl d, b, (register, d) :: registers)
    | none => (.nothing, b, registers)
  | push register =>
    match registers.get? register with
    | some d =>
      let (id, b) := b.push d
      (.id id, b, registers)
    | none => (.nothing, b, registers)

def runAll (b : Builder) (registers : Registers) : List BuilderCall → Builder × Registers
  | [] => (b, registers)
  | call :: calls =>
    let (_, b, registers) := call.run b registers
    runAll b registers calls

end BuilderCall

end NativeApi

import NativeApi.TypeRef
import NativeApi.Constant

/-!
# Kinds of declarations

What a declaration is, apart from its name and its place.  A kind is given over the type `δ` of
the declarations it contains, so that one and the same shape serves a declaration and whatever is
computed from its parts.

A record designates up to three of its members by id: its vtable, its vtable pointer field and
the field of its non-virtual base.  A `Slot` names one of the three, and `Slot.accepts` says which
kinds of members may fill it.

* `Kind.children`, `Kind.withChildren`: the contained declarations that are part of the tree.  The
  members that the front end could not represent are carried, and are not part of the tree.
* `Kind.type?`: every kind has at most one type of its own.
* `Kind.mapHandles`: the change of the handles of a record.
-/

namespace NativeApi

/-! ## Parts of kinds -/

inductive Slot where
  | vtable
  | vtableField
  | baseField
  deriving DecidableEq

def Slot.all : List Slot := [.vtable, .vtableField, .baseField]

def Slot.text : Slot → String
  | .vtable => "vtable"
  | .vtableField => "vtable pointer field"
  | .baseField => "non-virtual base field"

structure Record (δ : Type) where
  size : Nat
  alignment : Nat
  members : List δ
  vtable : Option DeclId
  vtableField : Option DeclId
  baseField : Option DeclId
  /-- Members that the front end could not represent. -/
  unsupported : List δ

namespace Record

variable {δ : Type}

/-- A record without layout information. -/
def ofMembers (members : List δ) : Record δ := ⟨0, 0, members, none, none, none, []⟩

def handle (r : Record δ) : Slot → Option DeclId
  | .vtable => r.vtable
  | .vtableField => r.vtableField
  | .baseField => r.baseField

def mapHandles (f : Option DeclId → Slot → Option DeclId) (r : Record δ) : Record δ :=
  { r with
    vtable := f r.vtable .vtable
    vtableField := f r.vtableField .vtableField
    baseField := f r.baseField .baseField }

@[simp] theorem handle_mapHandles (f : Option DeclId → Slot → Option DeclId) (r : Record δ)
    (s : Slot) : (r.mapHandles f).handle s = f (r.handle s) s := by
  cases s <;> rfl

/-- Whether the vtable and the field that points to it are designated both or neither. -/
def isPaired (r : Record δ) : Bool := r.vtable.isSome == r.vtableField.isSome

end Record

/-- An enum: a real one, or loose constants that belong to the enclosing declaration. -/
structure Enumeration (δ : Type) where
  type : TypeRef
  isLoose : Bool
  constants : List δ

structure Callable (δ : Type) where
  mangledName : String
  result : TypeRef
  isVirtual : Bool
  isInstance : Bool
  arrangement : Option Arrangement
  parameters : List δ

/-- What occupies the place of a field in its record. -/
inductive FieldContent where
  | normal (type : TypeRef)
  /-- The layout of a non-virtual base class. -/
  | base (type : TypeRef)
  /-- The pointer to the vtable. -/
  | vtablePointer
  | bits (offset width : Nat) (type : TypeRef)
  /-- A field that the front end could not represent fully. -/
  | unimplemented (what : String) (size : Nat)
  deriving DecidableEq

/-- What a slot of a vtable holds. -/
inductive VTableEntryRole where
  | functionPointer
  | offsetToTop
  | rtti
  | destructor
  deriving DecidableEq

structure VTableEntry where
  name : String
  role : VTableEntryRole
  /-- The virtual method in this slot, if the slot holds one. -/
  method : Option DeclId
  deriving DecidableEq

/-- Why a container was made. -/
inductive ContainerRole where
  /-- It hosts declarations that cannot stand alone. -/
  | looseDeclarations
  /-- It stands in for a native boolean of one byte. -/
  | nativeBoolean
  /-- It stands in for a native `char`. -/
  | nativeChar
  deriving DecidableEq

/-! ## Kinds -/

inductive Kind (δ : Type) where
  | record (r : Record δ)
  | enumeration (e : Enumeration δ)
  /-- The value holds the raw bits of the constant. -/
  | enumConstant (value : Nat) (isExplicit : Bool)
  | function (f : Callable δ)
  | parameter (type : TypeRef) (value : Option Constant)
  /-- The offset counts bytes from the start of the record. -/
  | field (offset : Nat) (content : FieldContent)
  | staticField (mangledName : String) (type : TypeRef)
  | vtable (entries : List VTableEntry)
  | typedef (type : TypeRef)
  | undefinedRecord
  | unsupported (what : String)
  | container (role : ContainerRole) (members : List δ)

namespace Kind

variable {δ : Type}

def name : Kind δ → String
  | record _ => "record"
  | enumeration _ => "enum"
  | enumConstant .. => "enum constant"
  | function _ => "function"
  | parameter .. => "parameter"
  | field _ (.normal _) => "field"
  | field _ (.base _) => "base field"
  | field _ .vtablePointer => "vtable field"
  | field _ (.bits ..) => "bitfield"
  | field _ (.unimplemented ..) => "unimplemented field"
  | staticField .. => "static field"
  | vtable _ => "vtable"
  | typedef _ => "typedef"
  | undefinedRecord => "undefined record"
  | unsupported _ => "unsupported declaration"
  | container .looseDeclarations _ => "loose declarations"
  | container .nativeBoolean _ => "native boolean"
  | container .nativeChar _ => "native char"

def children : Kind δ → List δ
  | record r => r.members
  | enumeration e => e.constants
  | function f => f.parameters
  | container _ members => members
  | enumConstant .. | parameter .. | field .. | staticField .. | vtable _ | typedef _
  | undefinedRecord | unsupported _ => []

/-- The kind with other contained declarations; a kind that contains none stays as it is. -/
def withChildren (k : Kind δ) (children : List δ) : Kind δ :=
  match k with
  | record r => record { r with members := children }
  | enumeration e => enumeration { e with constants := children }
  | function f => function { f with parameters := children }
  | container role _ => container role children
  | enumConstant .. | parameter .. | field .. | staticField .. | vtable _ | typedef _
  | undefinedRecord | unsupported _ => k

/-- The members that a record carries outside the tree. -/
def unrepresented : Kind δ → List δ
  | record r => r.unsupported
  | _ => []

/-- The type that a kind mentions itself, apart from its children. -/
def type? : Kind δ → Option TypeRef
  | enumeration e => some e.type
  | function f => some f.result
  | parameter type _ => some type
  | field _ (.normal type) | field _ (.base type) | field _ (.bits _ _ type) => some type
  | staticField _ type => some type
  | typedef type => some type
  | record _ | enumConstant .. | field _ .vtablePointer | field _ (.unimplemented ..) | vtable _
  | undefinedRecord | unsupported _ | container .. => none

/-- The kind with every handle changed by `f`, if it is a record. -/
def mapHandles (f : Option DeclId → Slot → Option DeclId) : Kind δ → Kind δ
  | record r => record (r.mapHandles f)
  | k => k

def declRefs (k : Kind δ) : List DeclRef :=
  match k.type? with
  | some type => type.declRefs
  | none => []

/-- Whether a kind may contain functions and fields: a record, or a container that hosts loose
declarations. -/
def hostsMembers : Kind δ → Bool
  | record _ => true
  | container .looseDeclarations _ => true
  | _ => false

end Kind

def Slot.accepts {δ : Type} : Slot → Kind δ → Bool
  | .vtable, .vtable _ => true
  | .vtableField, .field _ .vtablePointer => true
  | .baseField, .field _ (.base _) => true
  | _, _ => false

/-! ## Equations -/

namespace Kind

variable {δ : Type}

@[simp] theorem withChildren_children (k : Kind δ) : k.withChildren k.children = k := by
  cases k <;> rfl

@[simp] theorem type?_withChildren (k : Kind δ) (children : List δ) :
    (k.withChildren children).type? = k.type? := by
  cases k <;> rfl

@[simp] theorem type?_mapHandles (f : Option DeclId → Slot → Option DeclId) (k : Kind δ) :
    (k.mapHandles f).type? = k.type? := by
  cases k <;> rfl

@[simp] theorem children_mapHandles (f : Option DeclId → Slot → Option DeclId) (k : Kind δ) :
    (k.mapHandles f).children = k.children := by
  cases k <;> rfl

end Kind

end NativeApi

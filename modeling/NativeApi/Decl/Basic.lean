import NativeApi.Diagnostic
import NativeApi.Metadata
import NativeApi.Accessibility
import NativeApi.Decl.Kind

/-!
# Declarations

A declaration is a value: a change yields another declaration and leaves the first as it is.
Identity is the id, and two declarations with the same id may differ.

* `Decl.children`: the declarations directly inside another.
* `Decl.sizeOf_lt_of_mem_children`: they are smaller, so definitions may recurse on them.
* `Decl.induction`: a property that passes from the children to the parent holds throughout.
-/

namespace NativeApi

/-- A declaration with everything inside it. -/
structure Decl where
  id : DeclId
  /-- The name, which is empty for an anonymous declaration. -/
  name : String
  /-- The namespace of the declaration in the source, whatever contains the declaration here. -/
  scope : Option String
  accessibility : Accessibility
  file : FileIndex
  diagnostics : Diagnostics
  metadata : Metadata
  kind : Kind Decl

namespace Decl

/-- A public declaration without namespace, diagnostics and metadata. -/
def ofKind (id : DeclId) (name : String) (file : FileIndex) (kind : Kind Decl) : Decl :=
  { id
    name
    scope := none
    accessibility := .publicAccess
    file
    diagnostics := []
    metadata := .empty
    kind }

instance : Inhabited Decl := ⟨ofKind 0 "" 0 .undefinedRecord⟩

def children (d : Decl) : List Decl := d.kind.children

def hasErrors (d : Decl) : Bool := d.diagnostics.hasErrors

/-- A declaration with an error must not be emitted. -/
def isEmittable (d : Decl) : Bool := !d.hasErrors

def record? (d : Decl) : Option (Record Decl) :=
  match d.kind with
  | .record r => some r
  | _ => none

/-- The type that a declaration gives another name to. -/
def typedef? (d : Decl) : Option TypeRef :=
  match d.kind with
  | .typedef type => some type
  | _ => none

def fills (d : Decl) (s : Slot) : Bool := s.accepts d.kind

/-! ## Diagnostics -/

def append (d : Decl) (diagnostic : Diagnostic) : Decl :=
  { d with diagnostics := d.diagnostics ++ [diagnostic] }

def ensure (d : Decl) (diagnostic : Diagnostic) : Decl :=
  { d with diagnostics := d.diagnostics.ensure diagnostic }

def ensureAnyError (d : Decl) (message : String) : Decl :=
  { d with diagnostics := d.diagnostics.ensureAnyError message }

/-! ## Recursion -/

theorem one_le_sizeOf_kind (k : Kind Decl) : 1 ≤ sizeOf k := by
  cases k <;> simp +arith

theorem sizeOf_kindChildren_le (k : Kind Decl) : sizeOf k.children ≤ sizeOf k := by
  cases k with
  | record r =>
    cases r
    simp only [Kind.children, Kind.record.sizeOf_spec, Record.mk.sizeOf_spec]
    omega
  | enumeration e =>
    cases e
    simp only [Kind.children, Kind.enumeration.sizeOf_spec, Enumeration.mk.sizeOf_spec]
    omega
  | function f =>
    cases f
    simp only [Kind.children, Kind.function.sizeOf_spec, Callable.mk.sizeOf_spec]
    omega
  | container role members =>
    simp only [Kind.children, Kind.container.sizeOf_spec]
    omega
  | _ => exact one_le_sizeOf_kind _

theorem sizeOf_kindUnrepresented_le (k : Kind Decl) : sizeOf k.unrepresented ≤ sizeOf k := by
  cases k with
  | record r =>
    cases r
    simp only [Kind.unrepresented, Kind.record.sizeOf_spec, Record.mk.sizeOf_spec]
    omega
  | _ => exact one_le_sizeOf_kind _

theorem sizeOf_kind_lt (d : Decl) : sizeOf d.kind < sizeOf d := by
  cases d
  simp only [mk.sizeOf_spec]
  omega

theorem sizeOf_children_lt (d : Decl) : sizeOf d.children < sizeOf d :=
  Nat.lt_of_le_of_lt (sizeOf_kindChildren_le d.kind) d.sizeOf_kind_lt

theorem sizeOf_unrepresented_lt (d : Decl) : sizeOf d.kind.unrepresented < sizeOf d :=
  Nat.lt_of_le_of_lt (sizeOf_kindUnrepresented_le d.kind) d.sizeOf_kind_lt

theorem sizeOf_lt_of_mem_children {c d : Decl} (h : c ∈ d.children) : sizeOf c < sizeOf d :=
  Nat.lt_trans (List.sizeOf_lt_of_mem h) d.sizeOf_children_lt

theorem induction {motive : Decl → Prop}
    (step : ∀ d : Decl, (∀ c ∈ d.children, motive c) → motive d) (d : Decl) : motive d :=
  step d fun c _ => induction step c
termination_by sizeOf d
decreasing_by exact sizeOf_lt_of_mem_children ‹_›

end Decl

end NativeApi

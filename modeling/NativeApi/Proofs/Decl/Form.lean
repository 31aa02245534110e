import NativeApi.Pass.Handles

/-!
# Forms of declarations

A form is what remains of a kind without its data: the constructor, with the content of a field
and the role of a container.  No repair, no change of types and no rebuilding of a declaration
leaves its form, so what a rule asks of the form alone has one answer before and after a pass.

* `Kind.form`: the form of a kind.  `Kind.form_rebuild`: a rebuilt kind has the old form.
* `Slot.accepts_eq`, `Kind.hostsMembers_eq`: which slot a declaration may fill, and what it may
  contain, are read off the form.
* `Decl.Continues`: a declaration after any number of repairs.
-/

namespace NativeApi

/-! ## Forms -/

/-- What a field holds, without its data. -/
inductive FieldForm where
  | normal
  | base
  | vtablePointer
  | bits
  | unimplemented
  deriving DecidableEq

/-- What a declaration is, without its data. -/
inductive Form where
  | record
  | enumeration
  | enumConstant
  | function
  | parameter
  | field (content : FieldForm)
  | staticField
  | vtable
  | typedef
  | undefinedRecord
  | unsupported
  | container (role : ContainerRole)
  deriving DecidableEq

def FieldContent.form : FieldContent → FieldForm
  | normal _ => .normal
  | base _ => .base
  | vtablePointer => .vtablePointer
  | bits .. => .bits
  | unimplemented .. => .unimplemented

namespace Kind

variable {δ : Type}

def form : Kind δ → Form
  | record _ => .record
  | enumeration _ => .enumeration
  | enumConstant .. => .enumConstant
  | function _ => .function
  | parameter .. => .parameter
  | field _ content => .field content.form
  | staticField .. => .staticField
  | vtable _ => .vtable
  | typedef _ => .typedef
  | undefinedRecord => .undefinedRecord
  | unsupported _ => .unsupported
  | container role _ => .container role

/-! ## What keeps the form -/

@[simp] theorem form_withChildren (k : Kind δ) (children : List δ) :
    (k.withChildren children).form = k.form := by
  cases k <;> rfl

@[simp] theorem form_mapHandles (f : Option DeclId → Slot → Option DeclId) (k : Kind δ) :
    (k.mapHandles f).form = k.form := by
  cases k <;> rfl

@[simp] theorem form_rebuild (k : Kind Decl) (replacements : List Replacement) :
    (k.rebuild replacements).form = k.form := by
  rw [rebuild, form_withChildren, form_mapHandles]

/-- A kind has the children that it is given, if there is room for them. -/
theorem children_withChildren {k : Kind δ} {children : List δ}
    (h : k.children = [] → children = []) : (k.withChildren children).children = children := by
  cases k with
  | record r => rfl
  | enumeration e => rfl
  | function f => rfl
  | container role members => rfl
  | _ => exact (h rfl).symm

@[simp] theorem withChildren_withChildren (k : Kind δ) (first second : List δ) :
    (k.withChildren first).withChildren second = k.withChildren second := by
  cases k <;> rfl

/-! ## What the form decides -/

theorem form_eq_record_iff {k : Kind δ} : k.form = .record ↔ ∃ r, k = .record r := by
  cases k <;> simp [form]

theorem form_eq_vtable_iff {k : Kind δ} : k.form = .vtable ↔ ∃ entries, k = .vtable entries := by
  cases k <;> simp [form]

theorem form_eq_field_base_iff {k : Kind δ} :
    k.form = .field .base ↔ ∃ offset type, k = .field offset (.base type) := by
  cases k with
  | field offset content => cases content <;> simp [form, FieldContent.form]
  | _ => simp [form]

theorem form_eq_field_bits_iff {k : Kind δ} : k.form = .field .bits ↔
    ∃ offset start width type, k = .field offset (.bits start width type) := by
  cases k with
  | field offset content => cases content <;> simp [form, FieldContent.form]
  | _ => simp [form]

theorem form_eq_typedef_iff {k : Kind δ} : k.form = .typedef ↔ ∃ type, k = .typedef type := by
  cases k <;> simp [form]

theorem form_eq_unsupported_iff {k : Kind δ} :
    k.form = .unsupported ↔ ∃ what, k = .unsupported what := by
  cases k <;> simp [form]

theorem form_eq_container_iff {k : Kind δ} {role : ContainerRole} :
    k.form = .container role ↔ ∃ members, k = .container role members := by
  cases k <;> simp [form]

theorem hostsMembers_eq (k : Kind δ) :
    k.hostsMembers = decide (k.form = .record ∨ k.form = .container .looseDeclarations) := by
  cases k with
  | container role members => cases role <;> rfl
  | _ => rfl

end Kind

def Slot.form : Slot → Form
  | .vtable => .vtable
  | .vtableField => .field .vtablePointer
  | .baseField => .field .base

theorem Slot.accepts_eq {δ : Type} (s : Slot) (k : Kind δ) :
    s.accepts k = decide (k.form = s.form) := by
  cases s <;> cases k with
  | field offset content => cases content <;> rfl
  | _ => rfl

theorem Decl.fills_eq (d : Decl) (s : Slot) : d.fills s = decide (d.kind.form = s.form) :=
  s.accepts_eq d.kind

theorem Decl.fills_iff {d : Decl} {s : Slot} : d.fills s = true ↔ d.kind.form = s.form := by
  rw [fills_eq, decide_eq_true_iff]

theorem Decl.isSome_typedef?_iff {d : Decl} :
    d.typedef?.isSome = true ↔ d.kind.form = .typedef := by
  unfold typedef?
  cases d.kind <;> simp [Kind.form]

/-! ## Continuation -/

theorem Decl.eta (d : Decl) :
    Decl.mk d.id d.name d.scope d.accessibility d.file d.diagnostics d.metadata d.kind = d := by
  cases d
  rfl

/-- A declaration continues another if it is the same one later on: it has the same id and the
same form, and to the diagnostics some may have been appended. -/
structure Decl.Continues (d d' : Decl) : Prop where
  id : d'.id = d.id
  form : d'.kind.form = d.kind.form
  diagnostics : d.diagnostics <+: d'.diagnostics

namespace Decl.Continues

theorem refl (d : Decl) : d.Continues d := ⟨rfl, rfl, List.prefix_refl _⟩

theorem trans {d d' d'' : Decl} (h : d.Continues d') (h' : d'.Continues d'') :
    d.Continues d'' :=
  ⟨h'.id.trans h.id, h'.form.trans h.form, h.diagnostics.trans h'.diagnostics⟩

theorem of_kind {d : Decl} {k : Kind Decl} (h : k.form = d.kind.form) :
    d.Continues { d with kind := k } :=
  ⟨rfl, h, List.prefix_refl _⟩

theorem fills {d d' : Decl} (h : d.Continues d') (s : Slot) : d'.fills s = d.fills s := by
  rw [fills_eq, fills_eq, h.form]

end Decl.Continues

end NativeApi

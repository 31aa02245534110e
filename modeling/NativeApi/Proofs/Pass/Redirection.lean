import NativeApi.Proofs.Decl.Throughout
import NativeApi.Proofs.Pass.Rebuilding
import NativeApi.Proofs.Typedefs.Expansion

/-!
# References, listed and rewritten

Verification trusts the list of the references that a declaration makes (`Kind.declRefs`), and the
passes trust that their hook for types is called wherever there is a reference.  Both go through
kinds, fields and types on their own.  They agree: a pass that replaces references one by one
replaces those that are listed, each once and in its place, and nothing else.

* `redirection`: the pass that replaces each reference by another one.
* `TypeRef.SameShape`: types that differ in nothing but their references.
* `applyType_redirection`: what the engine makes of a type.
* `Decl.redirected`: what a run makes of a declaration.
* `redirection_covers_references`: the references afterwards are the replaced ones, position by
  position.
-/

namespace NativeApi

/-- The pass whose hook for types replaces references and leaves all other types to the engine. -/
def redirection (f : DeclRef → DeclRef) : Pass Unit where
  name := "redirection"
  type? _ type :=
    match type with
    | .decl ref => pure (some (.decl (f ref)))
    | _ => pure none

/-! ## Types -/

namespace TypeRef

/-- Types that differ in nothing but the references in them. -/
inductive SameShape : TypeRef → TypeRef → Prop
  | void : SameShape .void .void
  | scalar (s : Scalar) : SameShape (.scalar s) (.scalar s)
  | pointer {target target' : TypeRef} : SameShape target target' →
      SameShape (.pointer target) (.pointer target')
  | function {result result' : TypeRef} {parameters parameters' : List TypeRef}
      (convention : CallingConvention) : SameShape result result' →
      List.Forall₂ SameShape parameters parameters' →
      SameShape (.function result parameters convention) (.function result' parameters' convention)
  | decl (ref ref' : DeclRef) : SameShape (.decl ref) (.decl ref')
  | native (spelling : String) : SameShape (.native spelling) (.native spelling)

/-- A type with each reference replaced by another one. -/
def redirect (f : DeclRef → DeclRef) (type : TypeRef) : TypeRef :=
  type.substitute fun ref => .decl (f ref)

variable (f : DeclRef → DeclRef)

theorem redirect_function (result : TypeRef) (parameters : List TypeRef)
    (convention : CallingConvention) :
    (function result parameters convention).redirect f
      = .function (result.redirect f) (parameters.map (redirect f)) convention :=
  substitute_function _ result parameters convention

/-- **The references of a redirected type** are the old ones, each replaced. -/
theorem declRefs_redirect (type : TypeRef) : (type.redirect f).declRefs = type.declRefs.map f := by
  induction type using TypeRef.induction with
  | pointer target ih => exact ih
  | function result parameters convention ihresult ihparameters =>
    rw [redirect_function, declRefs_function, declRefs_function, ihresult, List.map_append,
      List.map_flatMap, List.flatMap_map]
    exact congrArg (_ ++ ·) (List.flatMap_congr ihparameters)
  | void => rfl
  | scalar s => rfl
  | decl ref => rfl
  | native spelling => rfl

theorem sameShape_redirect (type : TypeRef) : type.SameShape (type.redirect f) := by
  induction type using TypeRef.induction with
  | pointer target ih => exact .pointer ih
  | function result parameters convention ihresult ihparameters =>
    rw [redirect_function]
    refine .function convention ihresult ?_
    rw [List.forall₂_map_right_iff, List.forall₂_same]
    exact ihparameters
  | void => exact .void
  | scalar s => exact .scalar s
  | decl ref => exact .decl ref (f ref)
  | native spelling => exact .native spelling

end TypeRef

theorem applyType_redirection (f : DeclRef → DeclRef) (ctx : Context) (type : TypeRef)
    (s : Progress Unit) : (redirection f).applyType ctx type s = (type.redirect f, s) := by
  induction type using TypeRef.induction generalizing s with
  | pointer target ih =>
    have hook : (redirection f).type? ctx (.pointer target) s = (none, s) := rfl
    rw [Pass.applyType_eq, hook]
    dsimp only
    rw [ih]
    rfl
  | function result parameters convention ihresult ihparameters =>
    have hook : (redirection f).type? ctx (.function result parameters convention) s
        = (none, s) := rfl
    rw [Pass.applyType_eq, hook, TypeRef.redirect_function]
    dsimp only
    rw [ihresult, Pass.applyTypes_eq_map ihparameters]
  | void => rw [Pass.applyType_eq]; rfl
  | scalar s => rw [Pass.applyType_eq]; rfl
  | decl ref => rw [Pass.applyType_eq]; rfl
  | native spelling => rw [Pass.applyType_eq]; rfl

theorem applyOwnType_redirection (f : DeclRef → DeclRef) (ctx : Context) (k : Kind Decl)
    (s : Progress Unit) : (redirection f).applyOwnType ctx k s = (k.mapType (.redirect f), s) :=
  Pass.applyOwnType_eq_mapType (applyType_redirection f ctx) k s

/-! ## Declarations -/

/-- A declaration with each reference in it replaced and its handles settled. -/
def Decl.redirected (f : DeclRef → DeclRef) (d : Decl) : Decl :=
  { d with
    kind := ((d.kind.mapType (.redirect f)).mapHandles (settledHandle d.children)).withChildren
      (d.children.attach.map fun ⟨c, _⟩ => c.redirected f) }
termination_by sizeOf d
decreasing_by exact sizeOf_lt_of_mem_children ‹_›

namespace Decl

variable (f : DeclRef → DeclRef)

theorem redirected_eq (d : Decl) : d.redirected f =
    { d with
      kind := ((d.kind.mapType (.redirect f)).mapHandles (settledHandle d.children)).withChildren
        (d.children.map (redirected f)) } := by
  rw [redirected]
  have hinner : (d.children.attach.map fun c => c.1.redirected f) = d.children.map (redirected f) :=
    List.attach_map_val ..
  rw [hinner]

theorem continues_redirected (d : Decl) : d.Continues (d.redirected f) := by
  rw [redirected_eq]
  exact .of_kind (by rw [Kind.form_withChildren, Kind.form_mapHandles, Kind.form_mapType])

theorem type?_redirected (d : Decl) :
    (d.redirected f).kind.type? = d.kind.type?.map (TypeRef.redirect f) := by
  rw [redirected_eq, Kind.type?_withChildren, Kind.type?_mapHandles, Kind.type?_mapType]

theorem children_redirected (d : Decl) :
    (d.redirected f).children = d.children.map (redirected f) := by
  rw [redirected_eq]
  refine Kind.children_withChildren fun hnil => ?_
  rw [Kind.children_mapHandles, Kind.children_mapType] at hnil
  rw [children, hnil]
  rfl

/-- The engine rebuilds a declaration into the redirected one. -/
theorem redirected_eq_rebuild (d : Decl) : d.redirected f =
    { d with
      kind := (d.kind.mapType (.redirect f)).rebuild
        (d.children.map fun c => (c, [c.redirected f])) } := by
  have hrebuild := Kind.rebuild_map (k := d.kind.mapType (.redirect f)) (g := redirected f)
    fun _ c _ => c.continues_redirected f
  rw [Kind.children_mapType] at hrebuild
  rw [redirected_eq]
  exact congrArg (fun kind : Kind Decl => { d with kind }) hrebuild.symm

end Decl

theorem redirection_decl (f : DeclRef → DeclRef) (ctx : Context) (d : Decl) (s : Progress Unit) :
    (redirection f).decl ctx d s = (.unchanged, s) :=
  congrFun (dispatch_keep ctx d) s

/-- A run over siblings redirects each of them. -/
theorem applyAll_redirection (f : DeclRef → DeclRef) (ctx : Context) (ds : List Decl)
    (s : Progress Unit) :
    (redirection f).applyAll ctx ds s = (ds.map fun d => (d, [d.redirected f]), s) := by
  have key := Pass.run_induction (p := redirection f)
    (P := fun _ d s news s' => news = [d.redirected f] ∧ s' = s)
    (Q := fun _ ds s replacements s' =>
      replacements = (ds.map fun d => (d, [d.redirected f])) ∧ s' = s)
    (fun _ _ => ⟨rfl, rfl⟩) ?cons ?decl
  case cons =>
    rintro ctx d rest s news s' replacements s'' ⟨rfl, rfl⟩ ⟨rfl, rfl⟩
    exact ⟨rfl, rfl⟩
  case decl =>
    rintro ctx d s kind s₁ replacements s₂ answer s₃ htype _ ⟨rfl, rfl⟩ hanswer
    rw [applyOwnType_redirection, Prod.mk.injEq] at htype
    obtain ⟨rfl, rfl⟩ := htype
    rw [redirection_decl] at hanswer
    obtain ⟨rfl, rfl⟩ := Prod.mk.inj hanswer
    rw [← d.redirected_eq_rebuild f]
    exact ⟨rfl, rfl⟩
  exact Prod.ext (key.2 ctx ds s).1 (key.2 ctx ds s).2

theorem roots_redirection (f : DeclRef → DeclRef) (L : Library) :
    ((redirection f).run L ()).1.roots = L.roots.map (Decl.redirected f) := by
  rw [Pass.run_eq, applyAll_redirection]
  show (L.roots.map fun d => (d, [d.redirected f])).flatMap Prod.snd = _
  rw [List.flatMap_map, List.map_eq_flatMap]

/-! ## References -/

/-- A declaration later on, with its references replaced and its type of the old shape. -/
structure Decl.Redirects (f : DeclRef → DeclRef) (d d' : Decl) : Prop where
  continues : d.Continues d'
  declRefs : d'.kind.declRefs = d.kind.declRefs.map f
  type : Option.Rel TypeRef.SameShape d.kind.type? d'.kind.type?

theorem Decl.redirects_redirected (f : DeclRef → DeclRef) (d : Decl) :
    d.Redirects f (d.redirected f) where
  continues := d.continues_redirected f
  declRefs := by
    rw [Kind.declRefs, Kind.declRefs, d.type?_redirected f]
    cases d.kind.type? with
    | none => rfl
    | some type => exact type.declRefs_redirect f
  type := by
    rw [d.type?_redirected f]
    cases d.kind.type? with
    | none => exact .none
    | some type => exact .some (type.sameShape_redirect f)

theorem Decl.throughout_redirected (f : DeclRef → DeclRef) (d : Decl) :
    d.Throughout (Redirects f) (d.redirected f) := by
  induction d using induction with
  | step d ih =>
    refine .node (d.redirects_redirected f) ?_
    rw [children_redirected, List.forall₂_map_right_iff, List.forall₂_same]
    exact ih

/-- **The references that are listed are the references that are rewritten.**  After a run of the
pass that replaces references, the declarations are at the positions where they were.  Each makes
the references that it made, in their order, each replaced; and its type is what it was apart from
its references. -/
theorem redirection_covers_references (f : DeclRef → DeclRef) (L : Library) (path : List Nat) :
    Option.Rel (Decl.Redirects f) (L.declAt? path)
      (((redirection f).run L ()).1.declAt? path) := by
  refine Decl.rel_declBelow? ?_ path
  rw [roots_redirection, List.forall₂_map_right_iff, List.forall₂_same]
  exact fun d _ => d.throughout_redirected f

end NativeApi

import Mathlib.Data.List.Basic
import NativeApi.Proofs.Verify.Check

/-!
# What the rules see of the children

The rules for a declaration look into its children, which were verified before, but not far: they
see the ids and the forms of the members of a record, and the names of the parameters of a
function.  `Kind.view` is all that they see.  Children that look the same give the same findings
(`Context.issues_of_view`), and a check treats the children and the rest of a declaration apart
(`Context.check_withChildren`).

A `Decl.outline` has all that can be seen of a child, whatever the declaration is.
-/

namespace NativeApi

/-- What the rules for a declaration see of its children: the members of a record, and the names of
the parameters of a function. -/
def Kind.view : Kind Decl → List (DeclId × Form) × List String
  | .record r => (r.members.map fun m => (m.id, m.kind.form), [])
  | .function f => ([], f.parameters.map Decl.name)
  | _ => ([], [])

/-- What the rules can see of a child. -/
def Decl.outline (d : Decl) : DeclId × String × Form := (d.id, d.name, d.kind.form)

/-- Children of the same names look the same, unless they are the members of a record, which have
to have the same outlines. -/
theorem Kind.view_withChildren {k : Kind Decl} {children : List Decl}
    (hnames : children.map Decl.name = k.children.map Decl.name)
    (houtlines : k.form = .record → children.map Decl.outline = k.children.map Decl.outline) :
    (k.withChildren children).view = k.view := by
  cases k with
  | record r =>
    have hmembers := congrArg (List.map fun o : DeclId × String × Form => (o.1, o.2.2))
      (houtlines rfl)
    rw [List.map_map, List.map_map] at hmembers
    exact congrArg (·, []) hmembers
  | function f => exact congrArg (([], ·)) hnames
  | _ => rfl

theorem Kind.view_of_outlines {k : Kind Decl} {children : List Decl}
    (h : children.map Decl.outline = k.children.map Decl.outline) :
    (k.withChildren children).view = k.view := by
  refine view_withChildren ?_ fun _ => h
  have hnames := congrArg (List.map fun o : DeclId × String × Form => o.2.1) h
  rwa [List.map_map, List.map_map] at hnames

namespace Context

theorem recordIssues_of_view {r : Record Decl} {members : List Decl}
    (h : (members.map fun m => (m.id, m.kind.form)) = r.members.map fun m => (m.id, m.kind.form)) :
    recordIssues { r with members } = recordIssues r := by
  have hany : ∀ (slot : Slot) (id : DeclId), (members.any fun m => m.id = id && m.fills slot)
      = r.members.any fun m => m.id = id && m.fills slot := by
    intro slot id
    have key : ∀ ms : List Decl, (ms.any fun m => m.id = id && m.fills slot)
        = (ms.map fun m => (m.id, m.kind.form)).any fun o => o.1 = id && o.2 = slot.form := by
      intro ms
      rw [List.any_map]
      refine List.any_congr rfl fun m => ?_
      rw [Decl.fills_eq]
      rfl
    rw [key, key, h]
  unfold recordIssues
  congr 1
  refine List.filterMap_congr fun slot _ => ?_
  have hhandle : ({ r with members } : Record Decl).handle slot = r.handle slot := by
    cases slot <;> rfl
  rw [hhandle]
  cases r.handle slot with
  | none => rfl
  | some id =>
    change (if (members.any fun m => m.id = id && m.fills slot) = true then _ else _) = _
    rw [hany]

theorem functionIssues_of_view (ctx : Context) (default : CallingConvention) (d : Decl)
    {f : Callable Decl} {parameters : List Decl}
    (h : parameters.map Decl.name = f.parameters.map Decl.name) :
    ctx.functionIssues default d { f with parameters } = ctx.functionIssues default d f := by
  have hname : ∀ i : Nat, parameters[i]?.map Decl.name = f.parameters[i]?.map Decl.name := by
    intro i
    rw [← List.getElem?_map, ← List.getElem?_map, h]
  have hargument : ({ f with parameters } : Callable Decl).argumentName d.name
      = f.argumentName d.name := by
    funext i
    simp only [Callable.argumentName, hname]
  unfold functionIssues
  rw [hargument]
  rfl

/-- **The rules see the view only.** -/
theorem kindIssues_of_view (ctx : Context) (default : CallingConvention) (d : Decl)
    {children : List Decl} (h : (d.kind.withChildren children).view = d.kind.view) :
    ctx.kindIssues default { d with kind := d.kind.withChildren children }
      = ctx.kindIssues default d := by
  obtain ⟨id, name, scope, accessibility, file, diagnostics, metadata, kind⟩ := d
  cases kind with
  | record r => exact recordIssues_of_view (congrArg Prod.fst h)
  | function f => exact ctx.functionIssues_of_view default _ (congrArg Prod.snd h)
  | _ => rfl

theorem issues_of_view (ctx : Context) (default : CallingConvention) (d : Decl)
    {children : List Decl} (h : (d.kind.withChildren children).view = d.kind.view) :
    ctx.issues default { d with kind := d.kind.withChildren children } = ctx.issues default d := by
  unfold issues
  rw [ctx.kindIssues_of_view default d h]
  rfl

/-- The repair of a declaration does not look at the children. -/
theorem repair_withChildren (ctx : Context) (d : Decl) (children : List Decl) :
    ctx.repair { d with kind := d.kind.withChildren children }
      = { ctx.repair d with kind := (ctx.repair d).kind.withChildren children } := by
  obtain ⟨id, name, scope, accessibility, file, diagnostics, metadata, kind⟩ := d
  cases kind <;> rfl

theorem check_withChildren (ctx : Context) (default : CallingConvention) (d : Decl)
    {children : List Decl} (h : (d.kind.withChildren children).view = d.kind.view) :
    ctx.check default { d with kind := d.kind.withChildren children }
      = { ctx.check default d with kind := (ctx.check default d).kind.withChildren children } := by
  unfold check
  rw [ctx.issues_of_view default d h, ctx.repair_withChildren d children]

end Context

end NativeApi

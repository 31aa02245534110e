import NativeApi.Pass.Context

/-!
# Names of fields

A member of a type cannot have the name of the type in the target.  Such a field is renamed: as
many underscores are appended as make the name free among the names of its siblings, and the
`n`-th such field takes the `n`-th free name, so that renamed siblings never meet.
-/

namespace NativeApi

def underscored (base : String) (count : Nat) : String :=
  base ++ String.ofList (List.replicate count '_')

/-- Names with underscores that are not taken, the shortest first.  Of the names that are tried
at most `taken.length` are taken, so at least `count` remain. -/
def freeNames (base : String) (taken : List String) (count : Nat) : List String :=
  ((List.range (taken.length + count)).map fun k => underscored base (k + 1)).filter (· ∉ taken)

/-- The new name of a field, if it has the name of the declaration around it. -/
def Context.disambiguatedName? (ctx : Context) (d : Decl) : Option String :=
  match ctx.parent? with
  | none => none
  | some parent =>
    if d.name = "" ∨ d.name ≠ parent.name then none
    else
      let earlier := (parent.children.takeWhile (·.id ≠ d.id)).countP (·.name = d.name)
      (freeNames d.name (parent.children.map Decl.name) (earlier + 1))[earlier]?

end NativeApi

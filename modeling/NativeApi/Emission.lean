import NativeApi.Library.Basic

/-!
# Emission

What a code generator gets to see of a library: the declarations without errors, parents before
children, and the remaining diagnostics of each.  A declaration with an error is withheld together
with everything inside it.

* `Library.emission`: the events in their order, with the counts kept along the way.
-/

namespace NativeApi

inductive EmissionEvent where
  /-- Generate code for a declaration. -/
  | emit (visit : Visit)
  /-- Show a diagnostic next to the code. -/
  | report (diagnostic : AttachedDiagnostic)

structure Emission where
  events : List EmissionEvent
  emitted : Nat
  /-- The number of declarations withheld. -/
  skipped : Nat
  reported : Nat

namespace Emission

def empty : Emission := ⟨[], 0, 0, 0⟩

def append (a b : Emission) : Emission :=
  ⟨a.events ++ b.events, a.emitted + b.emitted, a.skipped + b.skipped, a.reported + b.reported⟩

instance : Append Emission := ⟨append⟩

def one (v : Visit) : Emission :=
  let reports := v.diagnostics.filter fun a => a.diagnostic.severity ≠ .error
  ⟨.emit v :: reports.map .report, 1, 0, reports.length⟩

def skip (count : Nat) : Emission := ⟨[], 0, count, 0⟩

/-- The number of declarations emitted and withheld, and of diagnostics reported. -/
def summary (e : Emission) : Nat × Nat × Nat := (e.emitted, e.skipped, e.reported)

end Emission

mutual

/-- The emission of a declaration below the given enclosing declarations. -/
def Decl.emission (above : List Decl) (d : Decl) : Emission :=
  if d.isEmittable then Emission.one ⟨above, d⟩ ++ Decl.emissionOfAll (d :: above) d.children
  else Emission.skip d.size
termination_by sizeOf d
decreasing_by exact Decl.sizeOf_children_lt d

def Decl.emissionOfAll (above : List Decl) (ds : List Decl) : Emission :=
  match ds with
  | [] => .empty
  | d :: rest => d.emission above ++ Decl.emissionOfAll above rest
termination_by sizeOf ds

end

def Library.emission (L : Library) : Emission := Decl.emissionOfAll [] L.roots

end NativeApi

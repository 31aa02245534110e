import NativeApi.Library.Lookup

/-!
# Contexts

Where a declaration sits while a pass looks at it.  The enclosing declarations are those of the
library before the pass, so a rule for a child sees its parent before any rule changed it.
-/

namespace NativeApi

/-- A place in a library. -/
structure Context where
  /-- The library before the pass. -/
  library : Library
  /-- The enclosing declarations, the innermost first. -/
  above : List Decl

namespace Context

def root (L : Library) : Context := ⟨L, []⟩

def enter (ctx : Context) (d : Decl) : Context := { ctx with above := d :: ctx.above }

def parent? (ctx : Context) : Option Decl := ctx.above.head?

def isRoot (ctx : Context) : Bool := ctx.above.isEmpty

def ancestors (ctx : Context) : List Decl := ctx.above.reverse

/-- Whether functions and fields may sit in this place. -/
def hostsMembers (ctx : Context) : Bool :=
  match ctx.parent? with
  | some parent => parent.kind.hostsMembers
  | none => false

@[simp] theorem library_enter (ctx : Context) (d : Decl) : (ctx.enter d).library = ctx.library :=
  rfl

@[simp] theorem above_enter (ctx : Context) (d : Decl) :
    (ctx.enter d).above = d :: ctx.above := rfl

end Context

end NativeApi

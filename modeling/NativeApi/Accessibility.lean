/-!
# Accessibility

Who may use a declaration.  The target has no protected levels, and a declaration without a
parent is either public or internal.
-/

namespace NativeApi

inductive Accessibility where
  | publicAccess
  | internalAccess
  | protectedAccess
  | protectedAndInternal
  | protectedOrInternal
  | privateAccess
  deriving DecidableEq

namespace Accessibility

def text : Accessibility → String
  | publicAccess => "public"
  | internalAccess => "internal"
  | protectedAccess => "protected"
  | protectedAndInternal => "private protected"
  | protectedOrInternal => "protected internal"
  | privateAccess => "private"

/-- The levels that depend on inheritance, which the target lacks. -/
def isProtected : Accessibility → Bool
  | protectedAccess | protectedAndInternal | protectedOrInternal => true
  | _ => false

/-- The levels of a declaration without a parent. -/
def isRootLevel : Accessibility → Bool
  | publicAccess | internalAccess => true
  | _ => false

theorem not_isProtected_of_isRootLevel {a : Accessibility} (h : a.isRootLevel = true) :
    a.isProtected = false := by
  cases a <;> first | rfl | exact absurd h (by decide)

end Accessibility

end NativeApi

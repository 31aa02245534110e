import NativeApi.Decl.Basic

/-!
# Handles that follow their members

When the members of a record give way to others, its handles follow the members that they
designate.  What happened to the members is given as a list of pairs: a declaration and what took
its place.

A tracker goes along with the members for each handle.  At the first member that the handle names
it finds the new target, the first declaration of the right kind among what took the place of that
member.

* `HandleTracker.observe`: one member that gave way.
* `retarget`: where a handle points in the end.  `retarget_some`: the first member with its id
  decides, and a handle that named no member stays.
* `Kind.rebuild`: a kind whose children gave way to others.
-/

namespace NativeApi

abbrev Replacement := Decl × List Decl

/-- The handle of a slot on the way through the members. -/
structure HandleTracker where
  designated : Option DeclId
  /-- Where the handle points from now on, once the member that it named was seen. -/
  retargeted : Option (Option DeclId) := none

namespace HandleTracker

/-- Takes notice of a member and what took its place. -/
def observe (slot : Slot) (t : HandleTracker) (r : Replacement) : HandleTracker :=
  if t.designated = some r.1.id ∧ t.retargeted = none then
    { t with retargeted := some ((r.2.find? (·.fills slot)).map Decl.id) }
  else t

/-- A handle that named no member stays, for verification to report. -/
def finish (t : HandleTracker) : Option DeclId := t.retargeted.getD t.designated

end HandleTracker

def retarget (replacements : List Replacement) (handle : Option DeclId) (slot : Slot) :
    Option DeclId :=
  (replacements.foldl (HandleTracker.observe slot) { designated := handle }).finish

/-- The kind in which every child gave way to its replacement. -/
def Kind.rebuild (k : Kind Decl) (replacements : List Replacement) : Kind Decl :=
  (k.mapHandles (retarget replacements)).withChildren (replacements.flatMap (·.2))

namespace HandleTracker

variable {t : HandleTracker} {r : Replacement} {slot : Slot}

theorem observe_of_ne (h : t.designated ≠ some r.1.id) : t.observe slot r = t :=
  if_neg fun hobserved => h hobserved.1

theorem observe_of_eq (h : t.designated = some r.1.id) (hfirst : t.retargeted = none) :
    t.observe slot r = { t with retargeted := some ((r.2.find? (·.fills slot)).map Decl.id) } :=
  if_pos ⟨h, hfirst⟩

/-- Only the first member that the handle names counts. -/
theorem foldl_observe_of_isSome (h : t.retargeted.isSome) (replacements : List Replacement) :
    replacements.foldl (observe slot) t = t := by
  induction replacements with
  | nil => rfl
  | cons r replacements ih =>
    have hstays : t.observe slot r = t := if_neg fun hobserved => by simp [hobserved.2] at h
    rw [List.foldl_cons, hstays, ih]

end HandleTracker

@[simp] theorem retarget_none (replacements : List Replacement) (slot : Slot) :
    retarget replacements none slot = none := by
  induction replacements with
  | nil => rfl
  | cons r replacements ih =>
    rw [retarget, List.foldl_cons, HandleTracker.observe_of_ne (by simp)]
    exact ih

section

variable {r : Replacement} {rest : List Replacement} {slot : Slot} {id : DeclId}

theorem retarget_cons_of_eq (h : r.1.id = id) :
    retarget (r :: rest) (some id) slot = (r.2.find? (·.fills slot)).map Decl.id := by
  rw [retarget, List.foldl_cons, HandleTracker.observe_of_eq (by rw [h]) rfl,
    HandleTracker.foldl_observe_of_isSome rfl]
  rfl

theorem retarget_cons_of_ne (h : r.1.id ≠ id) :
    retarget (r :: rest) (some id) slot = retarget rest (some id) slot := by
  rw [retarget, List.foldl_cons, HandleTracker.observe_of_ne (by simpa using Ne.symm h)]
  rfl

end

/-- The first member with the id decides where a handle points. -/
theorem retarget_some (replacements : List Replacement) (id : DeclId) (slot : Slot) :
    retarget replacements (some id) slot =
      match replacements.find? (·.1.id = id) with
      | none => some id
      | some (_, news) => (news.find? (·.fills slot)).map Decl.id := by
  induction replacements with
  | nil => rfl
  | cons r rest ih =>
    by_cases h : r.1.id = id
    · rw [retarget_cons_of_eq h, List.find?_cons_of_pos (by simpa using h)]
    · rw [retarget_cons_of_ne h, List.find?_cons_of_neg (by simpa using h), ih]

end NativeApi

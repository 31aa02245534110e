import Mathlib.Data.Finset.Card
import Std.Data.HashMap.Lemmas
import NativeApi.Proofs.Grouping
import NativeApi.Proofs.Library.Lookup

/-!
# The index of a library

A library can keep the paths of its declarations in a map by id, so that a lookup does not search.
The map is filled by one descent over the trees that carries the path along; an id that is already
in the map stays where it is.  It is made anew whenever the library gets other trees, and kept
when only the broken declarations or the first unused id change.

* `Decl.getElem?_enter`, `getElem?_indexOf`: the map holds the paths that a search finds.
* `IndexedLibrary.index_run`: after any changes the map is that of the trees the library has now.
* `IndexedLibrary.lookups_agree_with_walk`: **every lookup by id, in the map or by search, is the
  first visit of the walk with the id**.
-/

namespace NativeApi

abbrev PathIndex := Std.HashMap DeclId (List Nat)

/-! ## Filling the index -/

namespace Decl

mutual

/-- Enters a declaration that is at a path, and everything inside it. -/
def enter (d : Decl) (path : List Nat) (index : PathIndex) : PathIndex :=
  enterAll d.children path 0 (index.insertIfNew d.id path)
termination_by sizeOf d
decreasing_by exact sizeOf_children_lt d

def enterAll (ds : List Decl) (path : List Nat) (i : Nat) (index : PathIndex) : PathIndex :=
  match ds with
  | [] => index
  | d :: ds => enterAll ds path (i + 1) (d.enter (path ++ [i]) index)
termination_by sizeOf ds

end

theorem enter_eq (d : Decl) (path : List Nat) (index : PathIndex) :
    d.enter path index = enterAll d.children path 0 (index.insertIfNew d.id path) := by
  rw [enter]

theorem enterAll_cons (d : Decl) (ds : List Decl) (path : List Nat) (i : Nat)
    (index : PathIndex) :
    enterAll (d :: ds) path i index
      = enterAll ds path (i + 1) (d.enter (path ++ [i]) index) := by
  rw [enterAll]

theorem pathIn?_ne_nil (id : DeclId) (ds : List Decl) : pathIn? id ds ≠ some [] := by
  intro h
  have hfound : PathFound (pathIn? id ds) (Library.visitBelow? [] ds) _ :=
    pathIn?_found id [] fun d _ => d.pathTo?_found id []
  rw [h] at hfound
  obtain ⟨v, hat, _⟩ := hfound
  exact absurd hat nofun

theorem modifyHead_zero_add (path : List Nat) : path.modifyHead (0 + ·) = path := by
  cases path <;> simp

/-- Declarations side by side bring in the paths that a search among them finds, shifted to
where they are. -/
theorem getElem?_enterAll (id : DeclId) {ds : List Decl}
    (h : ∀ d ∈ ds, ∀ path index,
      (d.enter path index)[id]? = index[id]?.or ((d.pathTo? id).map (path ++ ·)))
    (path : List Nat) (i : Nat) (index : PathIndex) :
    (enterAll ds path i index)[id]?
      = index[id]?.or ((pathIn? id ds).map fun p => path ++ p.modifyHead (i + ·)) := by
  induction ds generalizing i index with
  | nil =>
    rw [enterAll, pathIn?]
    simp
  | cons d ds ih =>
    obtain ⟨hd, hds⟩ := List.forall_mem_cons.mp h
    rw [enterAll_cons, ih hds, hd, Option.or_assoc, pathIn?_cons]
    congr 1
    cases hto : d.pathTo? id with
    | some p => simp
    | none =>
      cases hin : pathIn? id ds with
      | none => rfl
      | some p =>
        cases p with
        | nil => exact absurd hin (pathIn?_ne_nil id ds)
        | cons k p => simp [Nat.add_assoc, Nat.add_comm 1]

/-- **A tree brings in the paths that a search in it finds**, and an id that is there already
keeps its path. -/
theorem getElem?_enter (id : DeclId) (d : Decl) (path : List Nat) (index : PathIndex) :
    (d.enter path index)[id]? = index[id]?.or ((d.pathTo? id).map (path ++ ·)) := by
  induction d using induction generalizing path index with
  | step d ih =>
    rw [enter_eq, getElem?_enterAll id ih, pathTo?_eq, Std.HashMap.getElem?_insertIfNew]
    by_cases hid : d.id = id
    · subst hid
      rw [if_pos rfl]
      by_cases hmem : d.id ∈ index
      · simp [hmem]
      · simp [hmem]
    · rw [if_neg (by simp [hid]), if_neg hid]
      simp only [modifyHead_zero_add]

end Decl

/-- The index of a list of trees. -/
def indexOf (roots : List Decl) : PathIndex := Decl.enterAll roots [] 0 ∅

theorem getElem?_indexOf (L : Library) (id : DeclId) : (indexOf L.roots)[id]? = L.pathOf? id := by
  rw [indexOf, Decl.getElem?_enterAll id fun d _ => d.getElem?_enter id,
    Std.HashMap.getElem?_empty, Option.none_or, Library.pathOf?]
  simp only [Decl.modifyHead_zero_add, List.nil_append, Option.map_id']

theorem Library.declCount_eq_card (L : Library) : L.declCount = L.ids.toFinset.card := by
  have hset : L.ids.toFinset = L.ids.eraseDups.toFinset := by
    ext id
    rw [List.mem_toFinset, List.mem_toFinset, List.mem_eraseDups]
  rw [declCount, hset, List.toFinset_card_of_nodup (nodup_eraseDups _)]

/-! ## Libraries that keep their index -/

/-- A library together with a map that stands for its search by id. -/
structure IndexedLibrary extends Library where
  index : PathIndex

namespace IndexedLibrary

def ofRoots (files : List String) (roots : List Decl) (nextId : DeclId) : IndexedLibrary :=
  ⟨Library.ofRoots files roots nextId, indexOf roots⟩

/-- What can be exchanged in a library. -/
inductive Change where
  | roots (roots : List Decl)
  | broken (broken : List Decl)
  | nextId (nextId : DeclId)

/-- The library after a change.  Only other trees need another index. -/
def change (S : IndexedLibrary) : Change → IndexedLibrary
  | .roots roots => ⟨S.toLibrary.withRoots roots, indexOf roots⟩
  | .broken broken => ⟨S.toLibrary.withBroken broken, S.index⟩
  | .nextId nextId => ⟨S.toLibrary.withNextId nextId, S.index⟩

def run (S : IndexedLibrary) (changes : List Change) : IndexedLibrary :=
  changes.foldl change S

def contains (S : IndexedLibrary) (id : DeclId) : Bool := S.index.contains id

def find? (S : IndexedLibrary) (id : DeclId) : Option Decl :=
  S.index[id]?.bind S.toLibrary.declAt?

def parentOf? (S : IndexedLibrary) (id : DeclId) : Option Decl :=
  S.index[id]?.bind fun path => S.toLibrary.declAt? path.dropLast

def declCount (S : IndexedLibrary) : Nat := S.index.size

/-- A change leaves the index that of the trees. -/
theorem index_change {S : IndexedLibrary} (h : S.index = indexOf S.toLibrary.roots)
    (c : Change) : (S.change c).index = indexOf (S.change c).toLibrary.roots := by
  cases c with
  | roots roots => rfl
  | broken broken => exact h
  | nextId nextId => exact h

/-- Whatever changes were made, the index is that of the trees. -/
theorem index_run {S : IndexedLibrary} (h : S.index = indexOf S.toLibrary.roots)
    (changes : List Change) : (S.run changes).index = indexOf (S.run changes).toLibrary.roots := by
  induction changes generalizing S with
  | nil => exact h
  | cons c changes ih => exact ih (index_change h c)

section

variable {S : IndexedLibrary} (h : S.index = indexOf S.toLibrary.roots)

include h

theorem getElem?_index (id : DeclId) : S.index[id]? = S.toLibrary.pathOf? id := by
  rw [h, getElem?_indexOf]

theorem contains_eq (id : DeclId) : S.contains id = S.toLibrary.contains id := by
  rw [contains, Std.HashMap.contains_eq_isSome_getElem?, getElem?_index h, Library.contains]

theorem find?_eq (id : DeclId) : S.find? id = S.toLibrary.find? id := by
  rw [find?, getElem?_index h, Library.find?]

theorem parentOf?_eq (id : DeclId) : S.parentOf? id = S.toLibrary.parentOf? id := by
  rw [parentOf?, getElem?_index h, Library.parentOf?]

theorem declCount_eq : S.declCount = S.toLibrary.declCount := by
  have hperm : S.index.keys.Perm S.toLibrary.ids.eraseDups := by
    refine (List.perm_ext_iff_of_nodup Std.HashMap.nodup_keys (nodup_eraseDups _)).mpr fun id => ?_
    rw [Std.HashMap.mem_keys, List.mem_eraseDups, ← Library.contains_iff, ← contains_eq h]
    exact Std.HashMap.mem_iff_contains
  rw [declCount, ← Std.HashMap.length_keys, hperm.length_eq, Library.declCount]

end

/-- **Lookups by id agree with the walk**, whatever trees a library was made from and whatever was
exchanged in it since: an id is contained if and only if it is visited, what is found is the first
visit with the id, its parent is the last of what encloses this visit, and the declarations are
counted by their distinct ids.  The lookups in the index the library keeps are these lookups. -/
theorem lookups_agree_with_walk (files : List String) (roots : List Decl) (nextId : DeclId)
    (changes : List Change) :
    let S := (ofRoots files roots nextId).run changes
    let L := S.toLibrary
    (∀ id,
      let first? := L.visits.find? (·.decl.id = id)
      (L.contains id = true ↔ ∃ v ∈ L.visits, v.decl.id = id)
        ∧ L.find? id = first?.map Visit.decl
        ∧ L.parentOf? id = first?.bind (·.ancestors.getLast?)
        ∧ S.contains id = L.contains id
        ∧ S.find? id = L.find? id
        ∧ S.parentOf? id = L.parentOf? id)
      ∧ L.declCount = (L.visits.map (·.decl.id)).toFinset.card
      ∧ S.declCount = L.declCount := by
  intro S L
  have hindex : S.index = indexOf L.roots := index_run rfl changes
  refine ⟨fun id => ⟨?_, ?_, ?_, ?_, ?_, ?_⟩, ?_, declCount_eq hindex⟩
  · rw [L.contains_iff, Library.ids, ← L.map_decl_visits, List.map_map, List.mem_map]
    rfl
  · exact L.find?_eq_visits id
  · rw [L.parentOf?_eq id]
    congr 1
    funext v
    exact (List.getLast?_reverse).symm
  · exact contains_eq hindex id
  · exact find?_eq hindex id
  · exact parentOf?_eq hindex id
  · rw [L.declCount_eq_card, Library.ids, ← L.map_decl_visits, List.map_map]
    rfl

end IndexedLibrary

end NativeApi

/-!
# Metadata

Facts that passes attach to a declaration besides its kind.  The set of facts is closed: each
item has a tag, and a `Metadata` bag holds at most one item per tag, in the order in which the
tags came in.

* `Metadata.insert` replaces the item of the same tag in its place, or appends.
* `Metadata.erase` drops the item of a tag and keeps the order of the others.
* `Metadata.same` compares two bags without regard to order.
-/

namespace NativeApi

inductive MetadataTag where
  | setLastError
  | formerName
  deriving DecidableEq

inductive MetadataItem where
  /-- The platform error code has to be captured right after a call. -/
  | setLastError
  /-- The name that the declaration had before a pass renamed it. -/
  | formerName (name : String)
  deriving DecidableEq

def MetadataItem.tag : MetadataItem → MetadataTag
  | setLastError => .setLastError
  | formerName _ => .formerName

/-- A bag of items with at most one item per tag, in the order of insertion. -/
structure Metadata where
  items : List MetadataItem
  nodup : (items.map MetadataItem.tag).Nodup
  deriving DecidableEq

namespace Metadata

def empty : Metadata := ⟨[], List.nodup_nil⟩

instance : Inhabited Metadata := ⟨empty⟩

def isEmpty (m : Metadata) : Bool := m.items.isEmpty

def get? (m : Metadata) (tag : MetadataTag) : Option MetadataItem :=
  m.items.find? (·.tag = tag)

def has (m : Metadata) (tag : MetadataTag) : Bool := m.items.any (·.tag = tag)

/-- The items with `item` in the place of the item of the same tag, or at the end. -/
def insertItem (items : List MetadataItem) (item : MetadataItem) : List MetadataItem :=
  if items.any (·.tag = item.tag) then
    items.map fun old => if old.tag = item.tag then item else old
  else items ++ [item]

theorem nodup_insertItem {items : List MetadataItem} (item : MetadataItem)
    (h : (items.map MetadataItem.tag).Nodup) :
    ((insertItem items item).map MetadataItem.tag).Nodup := by
  unfold insertItem
  split
  · have tags : (items.map fun old => if old.tag = item.tag then item else old).map
        MetadataItem.tag = items.map MetadataItem.tag := by
      rw [List.map_map]
      refine List.map_congr_left fun old _ => ?_
      simp only [Function.comp_apply]
      split
      · next h => exact h.symm
      · rfl
    rw [tags]
    exact h
  · next absent =>
    rw [List.map_append, List.nodup_append]
    refine ⟨h, by simp, ?_⟩
    intro a ha b hb
    simp only [List.map_cons, List.map_nil, List.mem_singleton] at hb
    obtain ⟨old, hold, rfl⟩ := List.mem_map.1 ha
    subst hb
    intro heq
    exact absent (List.any_eq_true.2 ⟨old, hold, by simpa using heq⟩)

def insert (m : Metadata) (item : MetadataItem) : Metadata :=
  ⟨insertItem m.items item, nodup_insertItem item m.nodup⟩

def erase (m : Metadata) (tag : MetadataTag) : Metadata :=
  ⟨m.items.filter (·.tag ≠ tag), m.nodup.sublist (List.filter_sublist.map MetadataItem.tag)⟩

/-- Whether two bags hold the same items, in whatever order. -/
def same (a b : Metadata) : Bool :=
  a.items.length = b.items.length && a.items.all (· ∈ b.items)

@[ext] theorem ext {a b : Metadata} (h : a.items = b.items) : a = b := by
  cases a
  cases b
  subst h
  rfl

theorem has_erase (m : Metadata) (tag : MetadataTag) : (m.erase tag).has tag = false := by
  simp [erase, has]

theorem erase_of_not_has {m : Metadata} {tag : MetadataTag} (h : m.has tag = false) :
    m.erase tag = m := by
  ext1
  simp only [has, List.any_eq_false, decide_eq_true_eq] at h
  exact List.filter_eq_self.2 fun item hi => by simpa using h item hi

theorem same_refl (m : Metadata) : m.same m = true := by
  simp [same]

end Metadata

end NativeApi

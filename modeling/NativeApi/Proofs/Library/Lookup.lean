import Mathlib.Data.List.Nodup
import NativeApi.Library.Lookup

/-!
# Lookup and the walk

A lookup goes down a path of positions, and the walk lists the declarations in pre-order, each
with what encloses it.  The two agree: the path of an id leads to the first place of the walk with
the id.

* `Library.find?_eq`, `Library.find?_eq_visits`: the declaration found is the one in that place.
* `Library.parentOf?_eq`: the parent found is what directly encloses that place.
* `Library.contains_iff`: there is a path if and only if the id occurs.
-/

namespace NativeApi

/-! ## Paths -/

/-- What the path found for an id leads to is the first with the id, and no path was found only
if there is none. -/
def PathFound {α : Type} (path? : Option (List Nat)) (at? : List Nat → Option α)
    (first? : Option α) : Prop :=
  match path? with
  | none => first? = none
  | some path => ∃ x, at? path = some x ∧ first? = some x

namespace Library

/-- The place at a path below a list of declarations, which are inside those above. -/
def visitBelow? : List Decl → List Decl → List Nat → Option Visit
  | _, _, [] => none
  | above, ds, [i] => ds[i]?.map (⟨above, ·⟩)
  | above, ds, i :: j :: path =>
    match ds[i]? with
    | some d => visitBelow? (d :: above) d.children (j :: path)
    | none => none

theorem map_decl_visitBelow? (above ds : List Decl) (path : List Nat) :
    (visitBelow? above ds path).map Visit.decl = declBelow? ds path := by
  induction above, ds, path using visitBelow?.induct with
  | case1 _ _ => rfl
  | case2 above ds i =>
    rw [visitBelow?, declBelow?]
    cases ds[i]? <;> rfl
  | case3 above ds i j path d hd ih =>
    rw [visitBelow?, declBelow?, hd]
    exact ih
  | case4 above ds i j path hd =>
    rw [visitBelow?, declBelow?, hd]
    rfl

/-- One more position leads from a place to one of the children there. -/
theorem visitBelow?_concat (above ds : List Decl) {path : List Nat} (hpath : path ≠ [])
    (i : Nat) :
    visitBelow? above ds (path ++ [i])
      = (visitBelow? above ds path).bind fun v =>
          v.decl.children[i]?.map (⟨v.decl :: v.above, ·⟩) := by
  induction above, ds, path using visitBelow?.induct with
  | case1 _ _ => exact absurd rfl hpath
  | case2 above ds k =>
    rw [List.singleton_append, visitBelow?, visitBelow?]
    cases ds[k]? <;> rfl
  | case3 above ds k j path d hd ih =>
    rw [List.cons_append, List.cons_append, visitBelow?, visitBelow?, hd]
    exact ih (List.cons_ne_nil _ _)
  | case4 above ds k j path hd =>
    rw [List.cons_append, List.cons_append, visitBelow?, visitBelow?, hd]
    rfl

/-- The children of a declaration that is in a place are below it. -/
theorem visitBelow?_child {roots : List Decl} {path : List Nat} {v : Visit}
    (hv : visitBelow? [] roots path = some v) {i : Nat} {c : Decl}
    (hc : v.decl.children[i]? = some c) :
    visitBelow? [] roots (path ++ [i]) = some ⟨v.decl :: v.above, c⟩ := by
  have hpath : path ≠ [] := by
    rintro rfl
    exact absurd hv nofun
  rw [visitBelow?_concat [] roots hpath, hv, Option.bind_some, hc]
  rfl

theorem exists_visit_of_declAt? {L : Library} {path : List Nat} {d : Decl}
    (hd : L.declAt? path = some d) :
    ∃ v, visitBelow? [] L.roots path = some v ∧ v.decl = d := by
  rw [declAt?, ← map_decl_visitBelow? []] at hd
  exact Option.map_eq_some_iff.mp hd

theorem visitBelow?_zero (above : List Decl) (d : Decl) (ds : List Decl) (path : List Nat) :
    visitBelow? above (d :: ds) (0 :: path)
      = if path = [] then some ⟨above, d⟩ else visitBelow? (d :: above) d.children path := by
  cases path <;> rfl

theorem visitBelow?_succ (above : List Decl) (d : Decl) (ds : List Decl) (i : Nat)
    (path : List Nat) :
    visitBelow? above (d :: ds) ((i + 1) :: path) = visitBelow? above ds (i :: path) := by
  cases path <;> rfl

/-- What directly encloses a place below the roots is at the path without its last position. -/
theorem parent?_of_visitBelow? {roots : List Decl} {path : List Nat} {v : Visit}
    (hv : visitBelow? [] roots path = some v) :
    v.parent? = declBelow? roots path.dropLast := by
  rcases List.eq_nil_or_concat path with rfl | ⟨path, i, rfl⟩
  · exact absurd hv nofun
  · rw [List.concat_eq_append] at hv ⊢
    rw [List.dropLast_concat]
    by_cases hpath : path = []
    · subst hpath
      obtain ⟨d, _, rfl⟩ := Option.map_eq_some_iff.mp hv
      rfl
    · rw [visitBelow?_concat [] roots hpath] at hv
      obtain ⟨p, hp, hv⟩ := Option.bind_eq_some_iff.mp hv
      obtain ⟨c, _, rfl⟩ := Option.map_eq_some_iff.mp hv
      rw [← map_decl_visitBelow? [], hp]
      rfl

end Library

namespace Decl

theorem pathTo?_eq (id : DeclId) (d : Decl) :
    d.pathTo? id = if d.id = id then some [] else pathIn? id d.children := by
  rw [pathTo?]

theorem pathIn?_cons (id : DeclId) (d : Decl) (ds : List Decl) :
    pathIn? id (d :: ds) = match d.pathTo? id with
      | some path => some (0 :: path)
      | none => match pathIn? id ds with
        | some (i :: path) => some ((i + 1) :: path)
        | _ => none :=
  pathIn?.eq_2 id d ds

theorem pathIn?_found (id : DeclId) (above : List Decl) {ds : List Decl}
    (h : ∀ d ∈ ds,
      PathFound (d.pathTo? id) (fun path => Library.visitBelow? above [d] (0 :: path))
        ((d.visits above).find? (·.decl.id = id))) :
    PathFound (pathIn? id ds) (Library.visitBelow? above ds)
      ((ds.flatMap (visits above)).find? (·.decl.id = id)) := by
  induction ds with
  | nil =>
    rw [pathIn?]
    rfl
  | cons d ds ih =>
    obtain ⟨hd, hds⟩ := List.forall_mem_cons.mp h
    have hrest := ih hds
    rw [pathIn?_cons, List.flatMap_cons, List.find?_append]
    cases hpath : d.pathTo? id with
    | some path =>
      rw [hpath] at hd
      obtain ⟨found, hat, hfirst⟩ := hd
      refine ⟨found, ?_, by rw [hfirst]; rfl⟩
      dsimp only at hat
      rwa [Library.visitBelow?_zero] at hat ⊢
    | none =>
      rw [hpath] at hd
      have hnone : (d.visits above).find? (·.decl.id = id) = none := hd
      rw [hnone, Option.none_or]
      cases hin : pathIn? id ds with
      | none =>
        rw [hin] at hrest
        exact hrest
      | some path =>
        rw [hin] at hrest
        obtain ⟨found, hat, hfirst⟩ := hrest
        cases path with
        | nil =>
          -- the empty path leads nowhere
          simp [Library.visitBelow?] at hat
        | cons i path =>
          exact ⟨found, (Library.visitBelow?_succ above d ds i path).trans hat, hfirst⟩

theorem pathTo?_found (id : DeclId) (above : List Decl) (d : Decl) :
    PathFound (d.pathTo? id) (fun path => Library.visitBelow? above [d] (0 :: path))
      ((d.visits above).find? (·.decl.id = id)) := by
  induction d using induction generalizing above with
  | step d ih =>
    rw [pathTo?_eq, visits_eq]
    by_cases hid : d.id = id
    · rw [if_pos hid, List.find?_cons_of_pos (by simpa using hid)]
      exact ⟨⟨above, d⟩, rfl, rfl⟩
    · rw [if_neg hid, List.find?_cons_of_neg (by simpa using hid)]
      have hin := pathIn?_found id (d :: above) fun c hc => ih c hc (d :: above)
      cases hpath : pathIn? id d.children with
      | none =>
        rw [hpath] at hin
        exact hin
      | some path =>
        rw [hpath] at hin
        obtain ⟨found, hat, hfirst⟩ := hin
        refine ⟨found, ?_, hfirst⟩
        have hne : path ≠ [] := by
          rintro rfl
          exact absurd hat nofun
        show Library.visitBelow? above [d] (0 :: path) = some found
        rw [Library.visitBelow?_zero, if_neg hne, hat]

end Decl

/-! ## Walks -/

namespace Decl

theorem mem_visits {above : List Decl} {d : Decl} {v : Visit} :
    v ∈ d.visits above ↔ v = ⟨above, d⟩ ∨ ∃ c ∈ d.children, v ∈ c.visits (d :: above) := by
  rw [visits_eq, List.mem_cons, List.mem_flatMap]

theorem mem_subtree {d e : Decl} :
    e ∈ d.subtree ↔ e = d ∨ ∃ c ∈ d.children, e ∈ c.subtree := by
  rw [subtree_eq, List.mem_cons, List.mem_flatMap]

theorem mem_subtree_of_mem_above {above : List Decl} {d : Decl} {v : Visit}
    (hv : v ∈ d.visits above) : ∀ a ∈ v.above, a ∈ above ∨ a ∈ d.subtree := by
  induction d using induction generalizing above with
  | step d ih =>
    intro a ha
    rcases mem_visits.mp hv with rfl | ⟨c, hc, hv⟩
    · exact .inl ha
    · rcases ih c hc hv a ha with habove | hsubtree
      · rcases List.mem_cons.mp habove with rfl | habove
        · exact .inr (mem_subtree.mpr (.inl rfl))
        · exact .inl habove
      · exact .inr (mem_subtree.mpr (.inr ⟨c, hc, hsubtree⟩))

/-- Below every place are the places of the children. -/
theorem mem_visits_child {above : List Decl} {d : Decl} {v : Visit} (hv : v ∈ d.visits above)
    {c : Decl} (hc : c ∈ v.decl.children) : ⟨v.decl :: v.above, c⟩ ∈ d.visits above := by
  induction d using induction generalizing above with
  | step d ih =>
    rcases mem_visits.mp hv with rfl | ⟨e, he, hv⟩
    · exact mem_visits.mpr (.inr ⟨c, hc, mem_visits.mpr (.inl rfl)⟩)
    · exact mem_visits.mpr (.inr ⟨e, he, ih e he hv⟩)

/-- A declaration in a place is a child of what is directly around the place. -/
theorem mem_children_of_mem_visits {above : List Decl} {d : Decl} {v : Visit}
    (hv : v ∈ d.visits above) :
    v = ⟨above, d⟩ ∨ ∃ p, v.parent? = some p ∧ v.decl ∈ p.children := by
  induction d using induction generalizing above with
  | step d ih =>
    rcases mem_visits.mp hv with rfl | ⟨c, hc, hv⟩
    · exact .inl rfl
    · rcases ih c hc hv with rfl | hparent
      · exact .inr ⟨d, rfl, hc⟩
      · exact .inr hparent

theorem sublist_flatMap_subtree (ds : List Decl) : ds.Sublist (ds.flatMap subtree) := by
  induction ds with
  | nil => exact .refl _
  | cons d ds ih =>
    rw [List.flatMap_cons, subtree_eq, List.cons_append]
    exact .cons_cons d (ih.trans (List.sublist_append_right _ _))

/-- Distinct ids in a subtree are distinct among the children of whatever is in it. -/
theorem nodup_children_of_mem_subtree {d e : Decl} (h : (d.subtree.map Decl.id).Nodup)
    (he : e ∈ d.subtree) : (e.children.map Decl.id).Nodup := by
  induction d using induction with
  | step d ih =>
    rw [subtree_eq, List.map_cons] at h
    have hchildren := (List.nodup_cons.mp h).2
    rcases mem_subtree.mp he with rfl | ⟨c, hc, he⟩
    · exact hchildren.sublist ((sublist_flatMap_subtree e.children).map _)
    · refine ih c hc (hchildren.sublist ?_) he
      exact (List.sublist_flatten_of_mem (List.mem_map_of_mem hc)).map _

end Decl

/-! ## Lookups -/

namespace Library

theorem pathOf?_found (L : Library) (id : DeclId) :
    PathFound (L.pathOf? id) (visitBelow? [] L.roots) (L.visits.find? (·.decl.id = id)) :=
  Decl.pathIn?_found id [] fun d _ => d.pathTo?_found id []

theorem find?_eq_visits (L : Library) (id : DeclId) :
    L.find? id = (L.visits.find? (·.decl.id = id)).map Visit.decl := by
  have h := L.pathOf?_found id
  rw [find?]
  cases hpath : L.pathOf? id with
  | none =>
    rw [hpath] at h
    rw [show L.visits.find? (·.decl.id = id) = none from h]
    rfl
  | some path =>
    rw [hpath] at h
    obtain ⟨v, hat, hfirst⟩ := h
    rw [hfirst, Option.bind_some, declAt?, ← map_decl_visitBelow? [], hat]

/-- **A lookup finds the first declaration of the walk.** -/
theorem find?_eq (L : Library) (id : DeclId) : L.find? id = L.decls.find? (·.id = id) := by
  rw [find?_eq_visits, ← map_decl_visits, List.find?_map]
  rfl

/-- The parent of an id is what directly encloses the first place of the walk with the id. -/
theorem parentOf?_eq (L : Library) (id : DeclId) :
    L.parentOf? id = (L.visits.find? (·.decl.id = id)).bind Visit.parent? := by
  have h := L.pathOf?_found id
  rw [parentOf?]
  cases hpath : L.pathOf? id with
  | none =>
    rw [hpath] at h
    rw [show L.visits.find? (·.decl.id = id) = none from h]
    rfl
  | some path =>
    rw [hpath] at h
    obtain ⟨v, hat, hfirst⟩ := h
    rw [hfirst, Option.bind_some, Option.bind_some, declAt?, parent?_of_visitBelow? hat]

theorem isSome_pathOf? (L : Library) (id : DeclId) :
    (L.pathOf? id).isSome = (L.visits.find? (·.decl.id = id)).isSome := by
  have h := L.pathOf?_found id
  cases hpath : L.pathOf? id with
  | none =>
    rw [hpath] at h
    rw [show L.visits.find? (·.decl.id = id) = none from h]
    rfl
  | some path =>
    rw [hpath] at h
    obtain ⟨v, _, hv⟩ := h
    rw [hv]
    rfl

theorem contains_iff (L : Library) (id : DeclId) : L.contains id = true ↔ id ∈ L.ids := by
  rw [contains, isSome_pathOf?, ids, ← map_decl_visits]
  simp

theorem isSome_find? (L : Library) (id : DeclId) : (L.find? id).isSome = L.contains id := by
  rw [Bool.eq_iff_iff, contains_iff, find?_eq, List.find?_isSome, ids, List.mem_map]
  simp

theorem contains_congr {L M : Library} (h : ∀ id, id ∈ L.ids ↔ id ∈ M.ids) :
    L.contains = M.contains := by
  funext id
  rw [Bool.eq_iff_iff, contains_iff, contains_iff, h]

theorem find?_eq_some_iff {L : Library} (h : L.ids.Nodup) {id : DeclId} {d : Decl} :
    L.find? id = some d ↔ d ∈ L.decls ∧ d.id = id := by
  rw [find?_eq]
  constructor
  · intro hfind
    exact ⟨List.mem_of_find?_eq_some hfind, by simpa using List.find?_some hfind⟩
  · rintro ⟨hmem, rfl⟩
    obtain ⟨e, hfind⟩ := Option.isSome_iff_exists.mp
      (List.find?_isSome (p := (·.id = d.id)).mpr ⟨d, hmem, by simp⟩)
    have hid : e.id = d.id := by simpa using List.find?_some hfind
    rw [hfind, List.inj_on_of_nodup_map h (List.mem_of_find?_eq_some hfind) hmem hid]

theorem mem_decls_iff {L : Library} {d : Decl} : d ∈ L.decls ↔ ∃ v ∈ L.visits, v.decl = d := by
  rw [← map_decl_visits, List.mem_map]

theorem mem_ids_iff {L : Library} {id : DeclId} : id ∈ L.ids ↔ ∃ d ∈ L.decls, d.id = id := by
  rw [ids, List.mem_map]

theorem mem_decls_of_mem_above {L : Library} {v : Visit} (hv : v ∈ L.visits) :
    ∀ a ∈ v.above, a ∈ L.decls := by
  intro a ha
  obtain ⟨d, hd, hv⟩ := List.mem_flatMap.mp hv
  rcases Decl.mem_subtree_of_mem_above hv a ha with hnil | hsubtree
  · exact absurd hnil List.not_mem_nil
  · exact List.mem_flatMap.mpr ⟨d, hd, hsubtree⟩

theorem mem_visits_child {L : Library} {v : Visit} (hv : v ∈ L.visits) {c : Decl}
    (hc : c ∈ v.decl.children) : ⟨v.decl :: v.above, c⟩ ∈ L.visits := by
  obtain ⟨d, hd, hv⟩ := List.mem_flatMap.mp hv
  exact List.mem_flatMap.mpr ⟨d, hd, Decl.mem_visits_child hv hc⟩

theorem mem_children_of_parent? {L : Library} {v : Visit} (hv : v ∈ L.visits) {p : Decl}
    (hp : v.parent? = some p) : v.decl ∈ p.children := by
  obtain ⟨d, _, hv⟩ := List.mem_flatMap.mp hv
  rcases Decl.mem_children_of_mem_visits hv with rfl | ⟨q, hq, hmem⟩
  · exact absurd hp nofun
  · obtain rfl : q = p := Option.some.inj (hq.symm.trans hp)
    exact hmem

def SiblingIdsDistinct (L : Library) : Prop :=
  ∀ d ∈ L.decls, (d.children.map Decl.id).Nodup

theorem siblingIdsDistinct_of_nodup {L : Library} (h : L.ids.Nodup) : L.SiblingIdsDistinct := by
  intro e he
  obtain ⟨d, hd, he⟩ := List.mem_flatMap.mp he
  refine Decl.nodup_children_of_mem_subtree (h.sublist ?_) he
  exact (List.sublist_flatten_of_mem (List.mem_map_of_mem hd)).map _

/-- The ids in the trees are distinct, and all of them were handed out. -/
structure TreeIdsSound (L : Library) : Prop where
  distinct : L.ids.Nodup
  below : ∀ id ∈ L.ids, id < L.nextId

end Library

end NativeApi

import Mathlib.Logic.Relation
import NativeApi.Proofs.Typedefs.Acyclic

/-!
# Reduction along any chain of typedefs

Nothing keeps a typedef from leading back to itself, and a chain may run into a cycle that it did
not start on.  The reduction of a type ends all the same, one link past the last typedef that it has
not met before.  From there the same search goes once around the cycle and comes back to the very
reference it started from, so what a type reduces to is reduced.

* `Library.TypedefSearch`: the reduction as a loop that remembers the ids that it has met.
* `Library.Trail`: the typedefs that lead from one type to another.  A search follows a trail of
  distinct typedefs to where it stops (`Library.exists_trail_reduceTypedefs`), and there is only one
  such trail (`Library.reduceTypedefs_eq_of_trail`).
* `Library.Links`: what it means for a typedef to be on a cycle.
* `Library.reduction_ends_on_every_chain`: **reduction ends, and it is a projection**.
-/

namespace NativeApi

namespace Library

variable {L : Library} {ref : DeclRef} {type target result : TypeRef} {ids seen : List DeclId}

/-! ## The search -/

/-- The search for what remains of a type: as long as it is at a reference with an id that it has
not met, and the id leads to a typedef, it goes on with what the typedef names.
`L.TypedefSearch seen type turns result`: having met `seen`, it takes so many turns from `type` to
`result`. -/
inductive TypedefSearch (L : Library) : List DeclId → TypeRef → Nat → TypeRef → Prop
  | other {seen : List DeclId} {type : TypeRef} : (∀ ref, type ≠ .decl ref) →
      TypedefSearch L seen type 0 type
  | met {seen : List DeclId} {ref : DeclRef} : ref.id ∈ seen →
      TypedefSearch L seen (.decl ref) 0 (.decl ref)
  | unresolved {seen : List DeclId} {ref : DeclRef} : ref.id ∉ seen →
      L.typedefTarget? ref.id = none → TypedefSearch L seen (.decl ref) 0 (.decl ref)
  | follow {seen : List DeclId} {ref : DeclRef} {target result : TypeRef} {turns : Nat} :
      ref.id ∉ seen → L.typedefTarget? ref.id = some target →
      TypedefSearch L (ref.id :: seen) target turns result →
      TypedefSearch L seen (.decl ref) (turns + 1) result

theorem TypedefSearch.unique {turns turns' : Nat} {result' : TypeRef}
    (h : L.TypedefSearch seen type turns result) (h' : L.TypedefSearch seen type turns' result') :
    turns' = turns ∧ result' = result := by
  induction h generalizing turns' with
  | other hother =>
    cases h' with
    | other => exact ⟨rfl, rfl⟩
    | _ => exact absurd rfl (hother _)
  | met hmet =>
    cases h' with
    | other hother => exact absurd rfl (hother _)
    | met => exact ⟨rfl, rfl⟩
    | unresolved hnew | follow hnew => exact absurd hmet hnew
  | unresolved hnew hnone =>
    cases h' with
    | other hother => exact absurd rfl (hother _)
    | met hmet => exact absurd hmet hnew
    | unresolved => exact ⟨rfl, rfl⟩
    | follow _ hsome => exact absurd (hnone.symm.trans hsome) nofun
  | follow hnew hsome _ ih =>
    cases h' with
    | other hother => exact absurd rfl (hother _)
    | met hmet => exact absurd hmet hnew
    | unresolved _ hnone => exact absurd (hnone.symm.trans hsome) nofun
    | follow _ hsome' h' =>
      obtain rfl := Option.some.inj (hsome.symm.trans hsome')
      obtain ⟨rfl, rfl⟩ := ih h'
      exact ⟨rfl, rfl⟩

/-! ## Trails -/

/-- The typedefs with the given ids lead, one after the other, from one type to another. -/
inductive Trail (L : Library) : List DeclId → TypeRef → TypeRef → Prop
  | nil (type : TypeRef) : Trail L [] type type
  | cons {ref : DeclRef} {target result : TypeRef} {ids : List DeclId} :
      L.typedefTarget? ref.id = some target → Trail L ids target result →
      Trail L (ref.id :: ids) (.decl ref) result

/-- A search that has met some ids stops at a type. -/
def Stops (L : Library) (met : List DeclId) (type : TypeRef) : Prop :=
  ∀ ref, type = .decl ref → ref.id ∈ met ∨ L.typedefTarget? ref.id = none

/-- What is reached by typedefs that are followed at most once. -/
theorem exists_trail_followTypedefs (L : Library) (unseen : List DeclId) (type : TypeRef) :
    ∃ ids, L.Trail ids type (L.followTypedefs unseen type) ∧ ids.Nodup ∧ ids ⊆ unseen ∧
      ∀ ref, L.followTypedefs unseen type = .decl ref →
        ref.id ∈ ids ∨ ref.id ∉ unseen ∨ L.typedefTarget? ref.id = none := by
  fun_induction followTypedefs L unseen type with
  | case1 unseen ref hmem target htarget ih =>
    obtain ⟨ids, htrail, hdistinct, hsub, hstops⟩ := ih
    have hrest (id : DeclId) (hid : id ∈ ids) : id ∈ unseen ∧ id ≠ ref.id :=
      mem_without.mp (hsub hid)
    refine ⟨ref.id :: ids, .cons htarget htrail, ?_, ?_, fun ref' hresult => ?_⟩
    · exact List.nodup_cons.mpr ⟨fun hid => (hrest ref.id hid).2 rfl, hdistinct⟩
    · exact List.cons_subset.mpr ⟨hmem, fun id hid => (hrest id hid).1⟩
    · rw [List.mem_cons]
      rcases hstops ref' hresult with hid | hid | hnone
      · exact .inl (.inr hid)
      · rw [mem_without, not_and_or, not_ne_iff] at hid
        exact hid.elim (fun hid => .inr (.inl hid)) fun hid => .inl (.inl hid)
      · exact .inr (.inr hnone)
  | case2 unseen ref hmem hnone =>
    refine ⟨[], .nil _, List.nodup_nil, List.nil_subset _, ?_⟩
    rintro _ ⟨⟩
    exact .inr (.inr hnone)
  | case3 unseen ref hmem =>
    refine ⟨[], .nil _, List.nodup_nil, List.nil_subset _, ?_⟩
    rintro _ ⟨⟩
    exact .inr (.inl hmem)
  | case4 unseen type hother =>
    exact ⟨[], .nil _, List.nodup_nil, List.nil_subset _, fun ref href => absurd href (hother ref)⟩

/-- **Reduction follows a trail of distinct typedefs** to where a search stops. -/
theorem exists_trail_reduceTypedefs (L : Library) (type : TypeRef) :
    ∃ ids, L.Trail ids type (L.reduceTypedefs type) ∧ ids.Nodup ∧ ids ⊆ L.typedefIds ∧
      L.Stops ids (L.reduceTypedefs type) := by
  obtain ⟨ids, htrail, hdistinct, hsub, hstops⟩ :=
    L.exists_trail_followTypedefs L.typedefIds type
  refine ⟨ids, htrail, hdistinct, hsub, fun ref href => ?_⟩
  rcases hstops ref href with hid | hid | hnone
  · exact .inl hid
  · refine .inr (Option.eq_none_iff_forall_ne_some.mpr fun target htarget => ?_)
    exact hid (mem_typedefIds_of_typedefTarget? htarget)
  · exact .inr hnone

/-- A search takes a trail of ids that it has not met, if it stops at the end. -/
theorem TypedefSearch.of_trail (htrail : L.Trail ids type result) (hdistinct : ids.Nodup)
    (hnew : ∀ id ∈ ids, id ∉ seen) (hstops : L.Stops (ids ++ seen) result) :
    L.TypedefSearch seen type ids.length result := by
  induction htrail generalizing seen with
  | nil type =>
    cases type with
    | decl ref =>
      by_cases hmet : ref.id ∈ seen
      · exact .met hmet
      · exact .unresolved hmet ((hstops ref rfl).resolve_left hmet)
    | _ => exact .other nofun
  | @cons ref target result ids htarget _ ih =>
    obtain ⟨hfresh, hdistinct⟩ := List.nodup_cons.mp hdistinct
    obtain ⟨hhere, hnew⟩ := List.forall_mem_cons.mp hnew
    refine .follow hhere htarget (ih hdistinct (fun id hid => ?_) fun ref' href' => ?_)
    · exact List.not_mem_cons_of_ne_of_not_mem (fun heq => hfresh (heq ▸ hid)) (hnew id hid)
    · refine (hstops ref' href').imp_left fun hmem => ?_
      exact List.perm_middle.mem_iff.mpr hmem

/-- **Whatever trail of distinct typedefs leads to where a search stops, reduction follows it.** -/
theorem reduceTypedefs_eq_of_trail (htrail : L.Trail ids type result) (hdistinct : ids.Nodup)
    (hstops : L.Stops ids result) : L.reduceTypedefs type = result := by
  obtain ⟨ids', htrail', hdistinct', _, hstops'⟩ := L.exists_trail_reduceTypedefs type
  rw [← List.append_nil ids] at hstops
  rw [← List.append_nil ids'] at hstops'
  have hsearch := TypedefSearch.of_trail htrail hdistinct (fun _ _ => List.not_mem_nil) hstops
  have hsearch' := TypedefSearch.of_trail htrail' hdistinct' (fun _ _ => List.not_mem_nil) hstops'
  exact (hsearch.unique hsearch').2

/-- A trail can be taken up at any of its typedefs, under whatever name the typedef goes. -/
theorem Trail.resume (htrail : L.Trail ids type result) (hid : ref.id ∈ ids) :
    ∃ rest, (ref.id :: rest) <:+ ids ∧ L.Trail (ref.id :: rest) (.decl ref) result := by
  induction htrail with
  | nil => exact absurd hid List.not_mem_nil
  | @cons ref' target result ids htarget htrail ih =>
    rcases List.mem_cons.mp hid with heq | hid
    · rw [← heq] at htarget ⊢
      exact ⟨ids, List.suffix_refl _, .cons htarget htrail⟩
    · obtain ⟨rest, hsuffix, hrest⟩ := ih hid
      exact ⟨rest, hsuffix.trans (List.suffix_cons _ _), hrest⟩

/-! ## Cycles -/

/-- The type of the typedef with an id is a reference to another id. -/
def Links (L : Library) (id id' : DeclId) : Prop :=
  ∃ ref, L.typedefTarget? id = some (.decl ref) ∧ ref.id = id'

/-- A typedef is on a cycle of links. -/
def OnTypedefCycle (L : Library) (id : DeclId) : Prop := Relation.TransGen L.Links id id

theorem Trail.transGen_links {ref' : DeclRef} {id : DeclId} {rest : List DeclId}
    (htrail : L.Trail (id :: rest) (.decl ref) (.decl ref')) :
    Relation.TransGen L.Links ref.id ref'.id := by
  induction rest generalizing id ref with
  | nil =>
    cases htrail with
    | cons htarget htrail =>
      cases htrail with
      | nil => exact .single ⟨ref', htarget, rfl⟩
  | cons next rest ih =>
    cases htrail with
    | cons htarget htrail =>
      cases htrail with
      | @cons middle _ _ _ htarget' htrail =>
        exact .head ⟨middle, htarget, rfl⟩ (ih (.cons htarget' htrail))

/-- What a type reduces to leads to no typedef, or to one on a cycle. -/
theorem onTypedefCycle_of_reduceTypedefs (h : L.reduceTypedefs type = .decl ref) :
    L.typedefTarget? ref.id = none ∨ L.OnTypedefCycle ref.id := by
  obtain ⟨ids, htrail, _, _, hstops⟩ := L.exists_trail_reduceTypedefs type
  rw [h] at htrail
  rcases hstops ref h with hid | hnone
  · obtain ⟨rest, _, hcycle⟩ := htrail.resume hid
    exact .inr hcycle.transGen_links
  · exact .inl hnone

/-- **What a type reduces to is reduced**, whether the search has stopped on a cycle or not. -/
theorem reduceTypedefs_reduceTypedefs (L : Library) (type : TypeRef) :
    L.reduceTypedefs (L.reduceTypedefs type) = L.reduceTypedefs type := by
  obtain ⟨ids, htrail, hdistinct, _, hstops⟩ := L.exists_trail_reduceTypedefs type
  by_cases hcycle : ∃ ref, L.reduceTypedefs type = .decl ref ∧ ref.id ∈ ids
  · -- the rest of the trail is one round of the cycle
    obtain ⟨ref, hresult, hid⟩ := hcycle
    rw [hresult] at htrail ⊢
    obtain ⟨rest, hsuffix, hround⟩ := htrail.resume hid
    refine reduceTypedefs_eq_of_trail hround (hdistinct.sublist hsuffix.sublist) ?_
    rintro _ ⟨⟩
    exact .inl (List.mem_cons_self ..)
  · refine reduceTypedefs_eq_of_trail (.nil _) List.nodup_nil fun ref href => ?_
    exact .inr ((hstops ref href).resolve_left fun hid => hcycle ⟨ref, href, hid⟩)

/-- A typedef that is not on a cycle reduces as its type does. -/
theorem reduceTypedefs_of_not_onTypedefCycle (htarget : L.typedefTarget? ref.id = some target)
    (h : ¬L.OnTypedefCycle ref.id) : L.reduceTypedefs (.decl ref) = L.reduceTypedefs target := by
  obtain ⟨ids, htrail, hdistinct, _, hstops⟩ := L.exists_trail_reduceTypedefs (.decl ref)
  generalize L.reduceTypedefs (.decl ref) = result at htrail hstops
  cases htrail with
  | nil =>
    -- there is a typedef to follow
    rcases hstops ref rfl with hid | hnone
    · exact absurd hid List.not_mem_nil
    · exact absurd (hnone.symm.trans htarget) nofun
  | @cons _ target' _ rest htarget' htrail =>
    obtain rfl := Option.some.inj (htarget.symm.trans htarget')
    refine (reduceTypedefs_eq_of_trail htrail (List.nodup_cons.mp hdistinct).2 ?_).symm
    rintro ref' rfl
    refine (hstops ref' rfl).imp_left fun hid => (List.mem_cons.mp hid).resolve_left fun heq => ?_
    have hround := (Trail.cons htarget htrail).transGen_links
    rw [heq] at hround
    exact h hround

/-! ## Any chain -/

/-- **Reduction ends on every chain, and it is a projection.**  The search that remembers what it
has met ends after at most as many turns as there are typedefs, and in one way only.  What it finds
is reduced.  If that is a reference, it leads to no typedef or to one on a cycle.  A reference to a
typedef that is not on a cycle reduces as the type of the typedef does, be there a cycle further on
or none. -/
theorem reduction_ends_on_every_chain (L : Library) (type : TypeRef) :
    (∃ turns ≤ L.typedefIds.length, ∀ n result,
      L.TypedefSearch [] type n result ↔ n = turns ∧ result = L.reduceTypedefs type) ∧
    L.reduceTypedefs (L.reduceTypedefs type) = L.reduceTypedefs type ∧
    (∀ ref, L.reduceTypedefs type = .decl ref →
      L.typedefTarget? ref.id = none ∨ L.OnTypedefCycle ref.id) ∧
    ∀ ref target, type = .decl ref → L.typedefTarget? ref.id = some target →
      ¬L.OnTypedefCycle ref.id → L.reduceTypedefs type = L.reduceTypedefs target := by
  refine ⟨?_, L.reduceTypedefs_reduceTypedefs type,
    fun _ => onTypedefCycle_of_reduceTypedefs, ?_⟩
  · obtain ⟨ids, htrail, hdistinct, hsub, hstops⟩ := L.exists_trail_reduceTypedefs type
    rw [← List.append_nil ids] at hstops
    have hsearch := TypedefSearch.of_trail htrail hdistinct (fun _ _ => List.not_mem_nil) hstops
    refine ⟨ids.length, (hdistinct.subperm hsub).length_le, fun n result => ⟨hsearch.unique, ?_⟩⟩
    rintro ⟨rfl, rfl⟩
    exact hsearch
  · rintro ref target rfl htarget hcycle
    exact reduceTypedefs_of_not_onTypedefCycle htarget hcycle

end Library

namespace Sample

/-- A typedef that runs into a cycle of two others, which carry other names around the cycle. -/
def runaway : Library :=
  .ofRoots ["include/runaway.h"] [
    .ofKind 1 "Entry" 0 (.typedef (.decl ⟨2, "Even"⟩)),
    .ofKind 2 "Even" 0 (.typedef (.decl ⟨3, "Odd"⟩)),
    .ofKind 3 "Odd" 0 (.typedef (.decl ⟨2, "EvenAgain"⟩))] 4

end Sample

/-- The search from outside the cycle goes once around it and keeps the name that it comes back
with. -/
theorem Library.reduction_ends_on_every_chain_runaway :
    let L := Sample.runaway
    L.typedefTarget? 1 = some (.decl ⟨2, "Even"⟩) ∧ ¬L.OnTypedefCycle 1 ∧
    L.reduceTypedefs (.decl ⟨1, "Entry"⟩) = L.reduceTypedefs (.decl ⟨2, "Even"⟩) ∧
    L.reduceTypedefs (.decl ⟨1, "Entry"⟩) = .decl ⟨2, "EvenAgain"⟩ ∧
    L.reduceTypedefs (.decl ⟨2, "EvenAgain"⟩) = .decl ⟨2, "EvenAgain"⟩ ∧ L.OnTypedefCycle 2 := by
  intro L
  have htarget : L.typedefTarget? 1 = some (.decl ⟨2, "Even"⟩) := by decide +kernel
  have hresult : L.reduceTypedefs (.decl ⟨1, "Entry"⟩) = .decl ⟨2, "EvenAgain"⟩ := by
    decide +kernel
  have houtside : ¬L.OnTypedefCycle 1 := by
    intro hcycle
    obtain ⟨id, _, ref, hlink, href⟩ := Relation.TransGen.tail'_iff.mp hcycle
    have hnone : ∀ id ∈ L.typedefIds, ∀ ref ∈ (L.typedefTarget? id).toList.flatMap TypeRef.declRefs,
        ref.id ≠ 1 := by decide +kernel
    refine hnone id (mem_typedefIds_of_typedefTarget? hlink) ref ?_ href
    rw [hlink]
    exact List.mem_singleton_self ref
  obtain ⟨_, hreduced, hend, hskip⟩ := reduction_ends_on_every_chain L (.decl ⟨1, "Entry"⟩)
  rw [hresult] at hreduced
  refine ⟨htarget, houtside, hskip _ _ rfl htarget houtside, hresult, hreduced, ?_⟩
  refine (hend _ hresult).resolve_left fun hnone => ?_
  exact absurd hnone (by decide +kernel)

end NativeApi

import NativeApi.Proofs.Typedefs.Stripping

/-!
# Stripping typedefs is substitution

Where no typedef mentions itself, the pass that strips typedefs carries out one substitution on
every type: a reference to a typedef gives way to the type of the typedef, substituted in turn.

* `Library.expansion_eq`: the substitution.
* `Library.stripped_eq_substitute`: what it makes of a declaration.
* `Library.id_ne_of_mem_declRefs`: no reference leads to a typedef any more.
* `typedefStripping_substitutes`: what a run comes to.
-/

namespace NativeApi

namespace Library

variable {L : Library} {ref : DeclRef}

theorem expansion_eq (hacyclic : L.TypedefsAcyclic) (ref : DeclRef) :
    L.expansion ref =
      match L.typedefTarget? ref.id with
      | some target => target.substitute L.expansion
      | none => .decl ref := by
  rw [expansion]
  cases L.typedefTarget? ref.id with
  | none => rfl
  | some target => exact withoutTypedefs_eq_substitute hacyclic target

/-- A stripped declaration has its type substituted, its handles settled and its children stripped;
the rest is as it was. -/
theorem stripped_eq_substitute (hacyclic : L.TypedefsAcyclic) (d : Decl) :
    L.stripped d =
      { d with
        kind := ((d.kind.mapType (·.substitute L.expansion)).mapHandles
          (settledHandle d.children)).withChildren (L.strippedAll d.children) } := by
  rw [stripped_eq, funext (withoutTypedefs_eq_substitute hacyclic)]

theorem id_ne_of_mem_declRefs (hsound : L.TreeIdsSound) (hacyclic : L.TypedefsAcyclic) {d : Decl}
    (hd : d ∈ (typedefStripping.run L ()).1.decls) (href : ref ∈ d.kind.declRefs) :
    ∀ e ∈ L.decls, e.typedef?.isSome = true → e.id ≠ ref.id := by
  obtain ⟨d, _, _, rfl⟩ := mem_decls_typedefStripping.mp hd
  rw [Kind.declRefs, type?_stripped] at href
  cases htype : d.kind.type? with
  | none =>
    rw [htype] at href
    exact absurd href List.not_mem_nil
  | some type =>
    rw [htype] at href
    have hnone : L.typedefTarget? ref.id = none := typedefTarget?_of_mem_declRefs hacyclic href
    intro e he htypedef hid
    rw [typedefTarget?, (find?_eq_some_iff hsound.distinct).mpr ⟨he, hid⟩, Option.bind_some]
      at hnone
    rw [hnone] at htypedef
    exact absurd htypedef Bool.false_ne_true

end Library

/-- **Stripping typedefs is full substitution**, where no typedef mentions itself.  Without any
record of the typedefs that were expanded, expansion comes to an end, and it is what the engine does
to each type.  No typedef remains.  All other declarations are visited in their order, below the
same declarations; each has the type that it had with a substitution carried out, the one that
replaces a reference to a typedef by the type of the typedef, substituted in turn.  A handle is
cleared if it named a member that may not fill the slot, and nothing else changes.  A reference that
remains is found just if its id is that of a declaration that was no typedef, and no typedef had
that id.  A second run changes nothing. -/
theorem typedefStripping_substitutes {L : Library} (hsound : L.TreeIdsSound)
    (hacyclic : L.TypedefsAcyclic) :
    let S := (typedefStripping.run L ()).1
    (WellFounded L.ExpansionStep ∧
      (∀ ref, L.withoutTypedefs (.decl ref) =
        let reduced := L.reduceTypedefs (.decl ref)
        if reduced = .decl ref then .decl ref else L.withoutTypedefs reduced) ∧
      ∀ above type s,
        typedefStripping.applyType ⟨L, above⟩ type s = (L.withoutTypedefs type, s)) ∧
    (∀ d ∈ S.decls, d.typedef? = none) ∧
    (S.visits = (L.visits.filter fun v => v.decl.typedef?.isNone).map
        (fun v => ⟨v.above.map L.stripped, L.stripped v.decl⟩) ∧
      S.files = L.files ∧ S.broken = L.broken ∧ S.nextId = max L.nextId 1) ∧
    ((∀ d, L.stripped d =
        { d with
          kind := ((d.kind.mapType (·.substitute L.expansion)).mapHandles
            (settledHandle d.children)).withChildren (L.strippedAll d.children) }) ∧
      (∀ type, L.withoutTypedefs type = type.substitute L.expansion) ∧
      ∀ ref, L.expansion ref =
        match L.typedefTarget? ref.id with
        | some target => target.substitute L.expansion
        | none => .decl ref) ∧
    (∀ d ∈ S.decls, ∀ ref ∈ d.kind.declRefs,
      (S.contains ref.id = true ↔ ∃ e ∈ L.decls, e.id = ref.id ∧ e.typedef? = none) ∧
      ∀ e ∈ L.decls, e.typedef?.isSome = true → e.id ≠ ref.id) ∧
    (typedefStripping.run S ()).1 = S := by
  intro S
  refine ⟨⟨?_, ?_, ?_⟩, ?_, ⟨?_, ?_⟩, ⟨?_, ?_, ?_⟩, fun d hd ref href => ⟨?_, ?_⟩, ?_⟩
  · exact Library.wellFounded_expansionStep hacyclic
  · exact Library.withoutTypedefs_eq hacyclic
  · exact fun above type s => applyType_typedefStripping ⟨L, above⟩ type s
  · exact Library.typedef?_of_mem_typedefStripping
  · exact L.visits_typedefStripping
  · have hmax : max (max L.nextId 1) L.nextId = max L.nextId 1 :=
      Nat.max_eq_left (Nat.le_max_left _ _)
    show (typedefStripping.run L ()).1.files = _ ∧ (typedefStripping.run L ()).1.broken = _ ∧
      (typedefStripping.run L ()).1.nextId = _
    rw [run_typedefStripping]
    exact ⟨rfl, rfl, hmax⟩
  · exact Library.stripped_eq_substitute hacyclic
  · exact Library.withoutTypedefs_eq_substitute hacyclic
  · exact Library.expansion_eq hacyclic
  · exact Library.contains_typedefStripping
  · exact Library.id_ne_of_mem_declRefs hsound hacyclic hd href
  · exact L.run_typedefStripping_again

namespace Sample

/-- Typedefs in several places: one of them is behind another, and one is inside a record, with a
function type, and has its id in a handle of the record. -/
def aliases : Library :=
  .ofRoots ["include/node.h"] [
    .ofKind 1 "Size" 0 (.typedef (.scalar .u32)),
    .ofKind 2 "Handle" 0 (.typedef (.pointer (.decl ⟨1, "Size"⟩))),
    .ofKind 3 "Flags" 0 (.enumeration ⟨.decl ⟨1, "Size"⟩, false, []⟩),
    .ofKind 8 "Node" 0 (.record { Record.ofMembers [
        .ofKind 4 "Mask" 0 (.typedef (.decl ⟨3, "Flags"⟩)),
        .ofKind 5 "Visit" 0 (.typedef
          (.pointer (.function (.decl ⟨4, "Mask"⟩) [.pointer (.decl ⟨2, "Handle"⟩)] .c))),
        .ofKind 6 "visit" 0 (.field 0 (.normal (.decl ⟨5, "Visit"⟩))),
        .ofKind 7 "mask" 0 (.field 8 (.bits 0 3 (.decl ⟨4, "Mask"⟩)))] with
      baseField := some 5 })] 9

theorem treeIdsSound_aliases : aliases.TreeIdsSound := ⟨by decide +kernel, by decide +kernel⟩

theorem typedefsAcyclic_aliases : aliases.TypedefsAcyclic :=
  Library.typedefsAcyclic_of_rank id (by decide +kernel)

end Sample

/-- Both fields of the sample end up with types that no typedef is involved in. -/
theorem typedefStripping_substitutes_aliases :
    Sample.aliases.TreeIdsSound ∧ Sample.aliases.TypedefsAcyclic ∧
    let S := (typedefStripping.run Sample.aliases ()).1
    S.decls.map (fun d => (d.id, d.kind.type?)) = [
      (3, some (.scalar .u32)), (8, none),
      (6, some (.pointer (.function (.decl ⟨3, "Flags"⟩) [.pointer (.pointer (.scalar .u32))] .c))),
      (7, some (.decl ⟨3, "Flags"⟩))] ∧
    (∀ d ∈ S.decls, d.typedef? = none) ∧ (typedefStripping.run S ()).1 = S := by
  obtain ⟨_, hother, _, _, _, hagain⟩ :=
    typedefStripping_substitutes Sample.treeIdsSound_aliases Sample.typedefsAcyclic_aliases
  refine ⟨Sample.treeIdsSound_aliases, Sample.typedefsAcyclic_aliases, ?_, hother, hagain⟩
  rw [run_typedefStripping, ← Library.flatMap_remainder]
  cbv

end NativeApi

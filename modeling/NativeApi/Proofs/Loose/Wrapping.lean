import NativeApi.Proofs.Grouping
import NativeApi.Proofs.Pass.Silent

/-!
# The run that wraps loose declarations

The pass that wraps loose declarations does everything in its last step, so its run is a function
of the library with settled handles (`run_looseWrapping`).

* `Library.wrapLoose_eq`: the roots that stay, the containers, and the ids they take.
* `Library.mem_decls_wrapLoose`: the declarations afterwards are those of before and the
  containers.
* `looseGroups_map`, `looseGroups_filter`: what keeps files, namespaces and forms keeps the groups.
-/

namespace NativeApi

/-! ## Loose declarations -/

namespace Decl

theorem isLoose_eq (d : Decl) :
    d.isLoose = decide (d.kind.form = .function ∨ d.kind.form = .staticField) := by
  unfold isLoose
  cases d.kind <;> rfl

theorem isLoose_iff {d : Decl} :
    d.isLoose = true ↔ d.kind.form = .function ∨ d.kind.form = .staticField := by
  rw [isLoose_eq, decide_eq_true_iff]

theorem Continues.isLoose {d d' : Decl} (h : d.Continues d') : d'.isLoose = d.isLoose := by
  rw [isLoose_eq, isLoose_eq, h.form]

theorem looseKey_resettled (d : Decl) : d.resettled.looseKey = d.looseKey := by
  rw [resettled_eq]
  rfl

end Decl

/-! ## Groups -/

theorem looseGroups_eq_nil_iff {ds : List Decl} :
    looseGroups ds = [] ↔ ∀ d ∈ ds, d.isLoose = false := by
  have hgroups : looseGroups ds = [] ↔ ds.filter Decl.isLoose = [] := by
    constructor
    · intro h
      have hperm := perm_flatMap_looseGroups ds
      rw [h] at hperm
      exact hperm.nil_eq.symm
    · intro h
      rw [looseGroups_eq_foldl, h]
      rfl
  rw [hgroups, List.filter_eq_nil_iff]
  simp

/-- What keeps forms, files and namespaces keeps the groups. -/
theorem looseGroups_map {f : Decl → Decl} (hloose : ∀ d, (f d).isLoose = d.isLoose)
    (hkey : ∀ d, (f d).looseKey = d.looseKey) (ds : List Decl) :
    looseGroups (ds.map f) = (looseGroups ds).map fun group => (group.1, group.2.map f) := by
  have hfilter : (ds.map f).filter Decl.isLoose = (ds.filter Decl.isLoose).map f := by
    rw [List.filter_map]
    exact congrArg (List.map f) (List.filter_congr fun d _ => hloose d)
  have hkeys : ((ds.filter Decl.isLoose).map f).map Decl.looseKey
      = (ds.filter Decl.isLoose).map Decl.looseKey := by
    rw [List.map_map]
    exact List.map_congr_left fun d _ => hkey d
  rw [looseGroups_eq, looseKeys, hfilter, hkeys, looseGroups_eq, List.map_map]
  refine List.map_congr_left fun key _ => Prod.ext rfl ?_
  show ((ds.map f).filter Decl.isLoose).filter (·.looseKey = key) = _
  rw [hfilter, List.filter_map]
  refine congrArg (List.map f) (List.filter_congr fun d _ => ?_)
  rw [Function.comp_apply, hkey]

/-- Declarations that are not loose make no difference to the groups. -/
theorem looseGroups_filter {p : Decl → Bool} {ds : List Decl}
    (h : ∀ d ∈ ds, d.isLoose = true → p d = true) : looseGroups (ds.filter p) = looseGroups ds := by
  have hfilter : (ds.filter p).filter Decl.isLoose = ds.filter Decl.isLoose := by
    rw [List.filter_filter]
    refine List.filter_congr fun d hd => ?_
    cases hloose : d.isLoose with
    | true => rw [h d hd hloose]; rfl
    | false => rfl
  rw [looseGroups_eq_foldl, hfilter, looseGroups_eq_foldl]

theorem isLoose_of_mem_looseGroups {ds : List Decl} {group : LooseKey × List Decl}
    (hgroup : group ∈ looseGroups ds) : ∀ d ∈ group.2, d.isLoose = true := by
  intro d hd
  have hmem : d ∈ (looseGroups ds).flatMap Prod.snd := List.mem_flatMap.mpr ⟨group, hgroup, hd⟩
  exact (List.mem_filter.mp ((perm_flatMap_looseGroups ds).mem_iff.mp hmem)).2

/-! ## Wrapped libraries -/

namespace Library

theorem mem_looseContainers {L : Library} {first : DeclId}
    {groups : List (LooseKey × List Decl)} {c : Decl} (hc : c ∈ L.looseContainers first groups) :
    ∃ id group, group ∈ groups ∧ c = L.looseContainer id group.1 group.2 := by
  obtain ⟨⟨group, i⟩, hgroup, rfl⟩ := List.mem_map.mp hc
  exact ⟨first + i, group, List.fst_mem_of_mem_zipIdx hgroup, rfl⟩

theorem children_looseContainers (L : Library) (first : DeclId)
    (groups : List (LooseKey × List Decl)) :
    (L.looseContainers first groups).flatMap Decl.children = groups.flatMap Prod.snd := by
  induction groups generalizing first with
  | nil => rfl
  | cons group groups ih =>
    obtain ⟨key, members⟩ := group
    rw [looseContainers_cons, List.flatMap_cons, List.flatMap_cons, ih]
    rfl

theorem wrapLoose_eq_self {L : Library} (h : ∀ d ∈ L.roots, d.isLoose = false) :
    L.wrapLoose = L := by
  rw [wrapLoose, looseGroups_eq_nil_iff.mpr h]

/-- **The wrapped library**: the roots that are not loose, and the containers. -/
theorem wrapLoose_eq {L : Library} (hnext : 1 ≤ L.nextId) :
    L.wrapLoose = { L with
      roots := L.roots.filter (fun d => !d.isLoose)
        ++ L.looseContainers L.nextId (looseGroups L.roots)
      nextId := L.nextId + (looseGroups L.roots).length } := by
  have hfirst : (IdSource.startingAt L.nextId).next = L.nextId := Nat.max_eq_left hnext
  cases hgroups : looseGroups L.roots with
  | nil =>
    have hloose := looseGroups_eq_nil_iff.mp hgroups
    have hkept : L.roots.filter (fun d => !d.isLoose) = L.roots :=
      List.filter_eq_self.mpr fun d hd => by rw [hloose d hd]; rfl
    rw [wrapLoose_eq_self hloose, hkept, looseContainers, List.zipIdx_nil, List.map_nil,
      List.append_nil, List.length_nil, Nat.add_zero]
  | cons group groups =>
    rw [wrapLoose, hgroups]
    dsimp only
    rw [hfirst, withNextId, withRoots]
    dsimp only
    rw [Nat.max_eq_left (Nat.le_add_right _ _)]

/-- The declarations of a wrapped library are those of before and the containers. -/
theorem mem_decls_wrapLoose {L : Library} (hnext : 1 ≤ L.nextId) {e : Decl} :
    e ∈ L.wrapLoose.decls ↔
      e ∈ L.decls ∨ e ∈ L.looseContainers L.nextId (looseGroups L.roots) := by
  have hroots : ∀ d, d ∈ L.roots ↔ d ∈ L.roots.filter (fun d => !d.isLoose) ∨
      ∃ c ∈ L.looseContainers L.nextId (looseGroups L.roots), d ∈ c.children := by
    intro d
    rw [← (perm_filter_append_looseGroups L.roots).mem_iff, List.mem_append,
      ← children_looseContainers L L.nextId, List.mem_flatMap]
  rw [wrapLoose_eq hnext, decls, decls, List.mem_flatMap, List.mem_flatMap]
  constructor
  · rintro ⟨d, hd, he⟩
    rcases List.mem_append.mp hd with hkept | hc
    · exact .inl ⟨d, (hroots d).mpr (.inl hkept), he⟩
    · rcases Decl.mem_subtree.mp he with rfl | ⟨m, hm, he⟩
      · exact .inr hc
      · exact .inl ⟨m, (hroots m).mpr (.inr ⟨d, hc, hm⟩), he⟩
  · rintro (⟨d, hd, he⟩ | hc)
    · rcases (hroots d).mp hd with hkept | ⟨c, hc, hmember⟩
      · exact ⟨d, List.mem_append_left _ hkept, he⟩
      · exact ⟨c, List.mem_append_right _ hc, Decl.mem_subtree.mpr (.inr ⟨d, hmember, he⟩)⟩
    · exact ⟨e, List.mem_append_right _ hc, Decl.mem_subtree.mpr (.inl rfl)⟩

end Library

/-! ## The run -/

/-- **The run of the pass**: the resettled library wrapped, and the number of its loose roots. -/
theorem run_looseWrapping (L : Library) (state : Nat) :
    looseWrapping.run L state = (L.resettled.wrapLoose, L.roots.countP Decl.isLoose) := by
  have hcount : L.resettled.roots.countP Decl.isLoose = L.roots.countP Decl.isLoose := by
    show (L.roots.map Decl.resettled).countP Decl.isLoose = _
    rw [List.countP_map]
    exact List.countP_congr fun d _ => by
      rw [Function.comp_apply, d.continues_resettled.isLoose]
  rw [Pass.run_of_silent (fun _ _ _ => rfl) looseWrapping_decl, ← hcount]
  rfl

end NativeApi

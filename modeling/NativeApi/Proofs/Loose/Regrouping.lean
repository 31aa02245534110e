import NativeApi.Proofs.Loose.Wrapping
import NativeApi.Proofs.Verify.Misplacement
import NativeApi.Proofs.Verify.Outcomes

/-!
# Wrapping regroups the roots

Wrapping takes the loose roots out of the list of roots, sorts them into one container for each
pair of file and namespace, and puts the containers behind the roots that remain.  Nothing is lost,
comes twice or changes, and neither the roots that remain nor the members of a container change
their order.

* `mem_looseKeys`: the pairs are those of the loose roots.
* `Library.run_wrapLoose_again`: a second run finds no loose root.
* `Library.visitBelow?_wrapLoose`: a loose root is then in the container of its pair, which is a
  place for functions and static fields.
* `looseWrapping_regroups`: **what one run does, what a second run does, and what verification says
  about the places of the members afterwards**.
-/

namespace NativeApi

/-! ## Keys -/

theorem mem_looseKeys {ds : List Decl} {key : LooseKey} :
    key ∈ looseKeys ds ↔ ∃ d ∈ ds, d.isLoose = true ∧ d.looseKey = key := by
  rw [looseKeys, List.mem_eraseDups, List.mem_map]
  simp only [List.mem_filter, and_assoc]

namespace Library

variable {L : Library}

theorem looseContainers_looseGroups (L : Library) (first : DeclId) (ds : List Decl) :
    L.looseContainers first (looseGroups ds) = (looseKeys ds).zipIdx.map fun (key, i) =>
      L.looseContainer (first + i) key (looseMembers ds key) := by
  rw [looseContainers, looseGroups_eq, List.zipIdx_map, List.map_map]
  rfl

/-! ## The second run -/

theorem isLoose_of_mem_wrapLoose (hnext : 1 ≤ L.nextId) :
    ∀ d ∈ L.wrapLoose.roots, d.isLoose = false := by
  rw [wrapLoose_eq hnext]
  intro d hd
  rcases List.mem_append.mp hd with hkept | hc
  · simpa using (List.mem_filter.mp hkept).2
  · obtain ⟨id, group, _, rfl⟩ := mem_looseContainers hc
    rfl

/-- **A second run changes nothing** and counts nothing. -/
theorem run_wrapLoose_again (hnext : 1 ≤ L.nextId)
    (hsettled : ∀ d ∈ L.decls, d.kind.HandlesSettled) (state : Nat) :
    looseWrapping.run L.wrapLoose state = (L.wrapLoose, 0) := by
  have hnone := isLoose_of_mem_wrapLoose hnext
  have hnext' : 1 ≤ L.wrapLoose.nextId := by
    rw [wrapLoose_eq hnext]
    exact Nat.le_trans hnext (Nat.le_add_right _ _)
  have hsettled' : ∀ d ∈ L.wrapLoose.decls, d.kind.HandlesSettled := by
    intro d hd
    rcases (mem_decls_wrapLoose hnext).mp hd with hold | hc
    · exact hsettled d hold
    · obtain ⟨id, group, _, rfl⟩ := mem_looseContainers hc
      exact Kind.handlesSettled_of_ne_record nofun
  have hcount : L.wrapLoose.roots.countP Decl.isLoose = 0 :=
    List.countP_eq_zero.mpr fun d hd => by rw [hnone d hd]; exact Bool.false_ne_true
  rw [run_looseWrapping, resettled_eq_self hnext' hsettled', wrapLoose_eq_self hnone, hcount]

/-! ## The places of members -/

/-- The members of a group are in its container, behind the roots that remain. -/
theorem visitBelow?_wrapLoose (hnext : 1 ≤ L.nextId) {i j : Nat} {key : LooseKey} {d : Decl}
    (hkey : (looseKeys L.roots)[i]? = some key) (hd : (looseMembers L.roots key)[j]? = some d) :
    visitBelow? [] L.wrapLoose.roots [(L.roots.filter fun d => !d.isLoose).length + i, j]
      = some ⟨[L.looseContainer (L.nextId + i) key (looseMembers L.roots key)], d⟩ := by
  let c := L.looseContainer (L.nextId + i) key (looseMembers L.roots key)
  have hroot : L.wrapLoose.roots[(L.roots.filter fun d => !d.isLoose).length + i]? = some c := by
    rw [wrapLoose_eq hnext]
    dsimp only
    rw [List.getElem?_append_right (Nat.le_add_right _ _), Nat.add_sub_cancel_left,
      looseContainers_looseGroups, List.getElem?_map, List.getElem?_zipIdx, hkey]
    simp [c]
  have hvisit : visitBelow? [] L.wrapLoose.roots [(L.roots.filter fun d => !d.isLoose).length + i]
      = some ⟨[], c⟩ := by
    rw [visitBelow?, hroot]
    rfl
  exact visitBelow?_child hvisit hd

end Library

/-! ## The whole pass -/

/-- **Wrapping is an exact and stable regrouping.**  There is one container for each pair of file
and namespace of the loose roots, in the order in which the pairs first occur.  The containers take
the next unused ids and follow the roots that are not loose; the members of each are the loose roots
with its file and its namespace, and all of these are as they were and in their order.  The run
counts the loose roots.  A second run changes and counts nothing, and verification afterwards
attaches no error about its place to any member. -/
theorem looseWrapping_regroups {L : Library} (hnext : 1 ≤ L.nextId)
    (hfit : ∀ d ∈ L.decls, ∀ r ∈ d.record?, r.HandlesFit) (state : Nat) :
    let W := (looseWrapping.run L state).1
    let kept := L.roots.filter fun d => !d.isLoose
    let loose := L.roots.filter Decl.isLoose
    let members := fun key : LooseKey => loose.filter fun d => d.looseKey = key
    ∃ keys : List LooseKey,
      (keys.Nodup ∧ (∀ key, key ∈ keys ↔ ∃ d ∈ loose, (d.file, d.scope) = key) ∧
        keys.Pairwise fun key key' =>
          (loose.map Decl.looseKey).idxOf key < (loose.map Decl.looseKey).idxOf key') ∧
      W = { L with
        roots := kept ++ keys.zipIdx.map fun (key, i) =>
          { Decl.ofKind (L.nextId + i) (L.containerName key.1) key.1
              (.container .looseDeclarations (members key)) with scope := key.2 }
        nextId := L.nextId + keys.length } ∧
      (looseWrapping.run L state).2 = loose.length ∧
      (∀ state', looseWrapping.run W state' = (W, 0)) ∧
      ∀ default i key j d, keys[i]? = some key → (members key)[j]? = some d →
        ∃ d', W.outcomeAt? (verify default W) [kept.length + i, j] = some d' ∧ d'.id = d.id ∧
          ∀ issue : Issue, issue.isMisplacement = true →
            issue.diagnostic ∈ d'.diagnostics → issue.diagnostic ∈ d.diagnostics := by
  have hsettled := Library.handlesSettled_of_handlesFit hfit
  have hrun : looseWrapping.run L state = (L.wrapLoose, L.roots.countP Decl.isLoose) := by
    rw [run_looseWrapping, Library.resettled_eq_self hnext hsettled]
  intro W kept loose members
  have hW : W = L.wrapLoose := congrArg Prod.fst hrun
  refine ⟨looseKeys L.roots, ⟨nodup_eraseDups _, fun key => ?_, pairwise_idxOf_eraseDups _⟩,
    ?_, ?_, fun state' => ?_, ?_⟩
  · rw [mem_looseKeys]
    simp only [loose, List.mem_filter, and_assoc]
    rfl
  · rw [hW, Library.wrapLoose_eq hnext, Library.looseContainers_looseGroups, looseGroups_eq,
      List.length_map]
    rfl
  · rw [hrun, List.countP_eq_length_filter]
  · rw [hW]
    exact Library.run_wrapLoose_again hnext hsettled state'
  · intro default i key j d hkey hd
    have hvisit := Library.visitBelow?_wrapLoose hnext hkey hd
    rw [hW]
    obtain ⟨d', hd', hsettles⟩ := exists_outcome default L.wrapLoose hvisit
    have hloose : d.isLoose = true :=
      (List.mem_filter.mp (List.mem_filter.mp (List.mem_of_getElem? hd)).1).2
    exact ⟨d', hd', hsettles.continues.id, fun issue hissue hmem =>
      hsettles.mem_diagnostics_of_isMisplacement rfl (Decl.isLoose_iff.mp hloose) hissue hmem⟩

/-- Loose declarations of two files, one of them in a namespace, with a record between them. -/
def Sample.scattered : Library :=
  .ofRoots ["include/audio.h", "include/video.h"] [
    .ofKind 1 "Open" 0 (.newFunction "Open" []),
    .ofKind 2 "Present" 1 (.newFunction "Present" []),
    .ofKind 3 "Device" 0 (.record (.ofMembers [])),
    { Decl.ofKind 4 "Volume" 0 (.staticField "Volume" (.scalar .f32)) with scope := some "audio" },
    .ofKind 5 "Close" 0 (.newFunction "Close" [])] 6

/-- Two of the three containers are for one file. -/
theorem looseWrapping_regroups_scattered : 1 ≤ Sample.scattered.nextId ∧
    (∀ d ∈ Sample.scattered.decls, ∀ r ∈ d.record?, r.HandlesFit) ∧
    let W := (looseWrapping.run Sample.scattered 0).1
    W.roots.map (fun d => (d.id, d.name, d.children.map Decl.id))
      = [(3, "Device", []), (6, "audio", [1, 5]), (7, "video", [2]), (8, "audio", [4])] ∧
    W.nextId = 9 ∧ ∀ state, looseWrapping.run W state = (W, 0) :=
  have hnext : 1 ≤ Sample.scattered.nextId := by decide +kernel
  have hfit : ∀ d ∈ Sample.scattered.decls, ∀ r ∈ d.record?, r.HandlesFit := by decide +kernel
  have ⟨_, _, _, _, hagain, _⟩ := looseWrapping_regroups hnext hfit 0
  ⟨hnext, hfit, by decide +kernel, by decide +kernel, hagain⟩

end NativeApi

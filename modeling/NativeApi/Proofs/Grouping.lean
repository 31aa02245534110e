import Mathlib.Data.List.Basic
import Mathlib.Data.List.Induction
import NativeApi.LooseDeclarations

/-!
# Groups by a key

The loose declarations are gathered by file and namespace, one after the other.  What comes of this
is read off the list: a group for each key, in the order in which the keys first occur, and in each
group what has its key, in the order of the list (`foldl_gather`, `looseGroups_eq`).

A declaration has one key, so the groups put side by side are a rearrangement of the loose
declarations (`perm_flatMap_looseGroups`): none is lost and none comes twice.
-/

namespace NativeApi

/-! ## Lists without repetitions -/

section

variable {α : Type} [BEq α] [LawfulBEq α]

theorem idxOf_lt_idxOf_of_filter {p : α → Bool} {a b : α} {l : List α} (ha : p a = true)
    (hb : p b = true) (h : (l.filter p).idxOf a < (l.filter p).idxOf b) :
    l.idxOf a < l.idxOf b := by
  induction l with
  | nil => exact absurd h (Nat.lt_irrefl _)
  | cons c l ih =>
    by_cases hc : p c = true
    · rw [List.filter_cons_of_pos hc] at h
      by_cases hca : c = a
      · subst hca
        rw [List.idxOf_cons_self] at h ⊢
        have hne : c ≠ b := by
          rintro rfl
          rw [List.idxOf_cons_self] at h
          exact Nat.lt_irrefl _ h
        rw [List.idxOf_cons_ne _ hne]
        exact Nat.succ_pos _
      · rw [List.idxOf_cons_ne _ hca] at h ⊢
        have hcb : c ≠ b := by
          rintro rfl
          rw [List.idxOf_cons_self] at h
          exact Nat.not_lt_zero _ h
        rw [List.idxOf_cons_ne _ hcb] at h ⊢
        exact Nat.succ_lt_succ (ih (Nat.lt_of_succ_lt_succ h))
    · rw [List.filter_cons_of_neg hc] at h
      have hca : c ≠ a := fun heq => hc (heq ▸ ha)
      have hcb : c ≠ b := fun heq => hc (heq ▸ hb)
      rw [List.idxOf_cons_ne _ hca, List.idxOf_cons_ne _ hcb]
      exact Nat.succ_lt_succ (ih h)

/-- Without its repetitions a list is in the order of first occurrences. -/
theorem pairwise_idxOf_eraseDups (l : List α) :
    l.eraseDups.Pairwise fun a b => l.idxOf a < l.idxOf b := by
  induction hn : l.length using Nat.strongRecOn generalizing l with
  | ind n ih =>
    cases l with
    | nil => exact .nil
    | cons a rest =>
      have hlen : (rest.filter fun b => !b == a).length < n := by
        subst hn
        exact Nat.lt_succ_of_le (List.length_filter_le _ rest)
      have hne : ∀ b ∈ (rest.filter fun b => !b == a).eraseDups, (!b == a) = true := fun b hb =>
        (List.mem_filter.mp (List.mem_eraseDups.mp hb)).2
      have hidx : ∀ b ∈ (rest.filter fun b => !b == a).eraseDups,
          (a :: rest).idxOf b = rest.idxOf b + 1 := by
        intro b hb
        have : a ≠ b := by
          rintro rfl
          simpa using hne a hb
        exact List.idxOf_cons_ne _ this
      rw [List.eraseDups_cons]
      refine List.pairwise_cons.mpr ⟨?_, ?_⟩
      · intro b hb
        rw [List.idxOf_cons_self, hidx b hb]
        exact Nat.succ_pos _
      · refine (ih _ hlen _ rfl).imp_of_mem fun {b c} hb hc hlt => ?_
        rw [hidx b hb, hidx c hc]
        exact Nat.succ_lt_succ (idxOf_lt_idxOf_of_filter (hne b hb) (hne c hc) hlt)

theorem nodup_eraseDups (l : List α) : l.eraseDups.Nodup := by
  refine (pairwise_idxOf_eraseDups l).imp ?_
  rintro a _ hlt rfl
  exact Nat.lt_irrefl _ hlt

end

/-! ## Gathering by a key -/

section

variable {α κ : Type} [DecidableEq κ] {key : α → κ} {a : α}

/-- An element with one of the keys joins the group with that key. -/
theorem gather_of_mem {keys : List κ} {members : κ → List α} (hkeys : keys.Nodup)
    (h : key a ∈ keys) :
    gather key (keys.map fun k => (k, members k)) a
      = keys.map fun k => (k, if k = key a then members k ++ [a] else members k) := by
  induction keys with
  | nil => exact absurd h List.not_mem_nil
  | cons k keys ih =>
    rw [List.nodup_cons] at hkeys
    rw [List.map_cons, List.map_cons, gather]
    split
    · next heq =>
      -- no other group has the key
      refine congrArg _ (List.map_congr_left fun k' hk' => ?_)
      have hne : k' ≠ key a := by
        rintro rfl
        exact hkeys.1 (heq ▸ hk')
      rw [if_neg hne]
    · next hne =>
      rw [ih hkeys.2 ((List.mem_cons.mp h).resolve_left fun heq => hne heq.symm)]

/-- An element with another key begins a group. -/
theorem gather_of_not_mem {groups : List (κ × List α)} (h : key a ∉ groups.map Prod.fst) :
    gather key groups a = groups ++ [(key a, [a])] := by
  induction groups with
  | nil => rfl
  | cons group groups ih =>
    rw [List.map_cons, List.mem_cons, not_or] at h
    rw [gather, if_neg fun heq => h.1 heq.symm, ih h.2, List.cons_append]

theorem perm_flatMap_gather (key : α → κ) (groups : List (κ × List α)) (a : α) :
    ((gather key groups a).flatMap Prod.snd).Perm (groups.flatMap Prod.snd ++ [a]) := by
  induction groups with
  | nil => exact .refl _
  | cons group groups ih =>
    rw [gather]
    split
    · rw [List.flatMap_cons, List.flatMap_cons, List.append_assoc, List.append_assoc]
      exact List.perm_append_comm.append_left _
    · rw [List.flatMap_cons, List.flatMap_cons, List.append_assoc]
      exact ih.append_left _

/-- The groups of a list make up the list. -/
theorem perm_flatMap_foldl_gather (key : α → κ) (l : List α) (groups : List (κ × List α)) :
    ((l.foldl (gather key) groups).flatMap Prod.snd).Perm (groups.flatMap Prod.snd ++ l) := by
  induction l generalizing groups with
  | nil => rw [List.foldl_nil, List.append_nil]
  | cons a l ih =>
    rw [List.foldl_cons, List.append_cons]
    exact (ih _).trans ((perm_flatMap_gather key groups a).append_right l)

variable [BEq κ] [LawfulBEq κ]

/-- A group for each key, where it first occurs, of what has the key. -/
def groupsBy (key : α → κ) (l : List α) : List (κ × List α) :=
  (l.map key).eraseDups.map fun k => (k, l.filter (key · = k))

theorem gather_groupsBy (key : α → κ) (l : List α) (a : α) :
    gather key (groupsBy key l) a = groupsBy key (l ++ [a]) := by
  rw [groupsBy, groupsBy, List.map_append, List.eraseDups_append, List.map_append]
  by_cases ha : key a ∈ l.map key
  · have hold : ([a].map key).removeAll (l.map key) = [] := by
      simpa [List.removeAll] using List.mem_map.mp ha
    rw [gather_of_mem (nodup_eraseDups _) (List.mem_eraseDups.mpr ha), hold,
      List.eraseDups_nil, List.map_nil, List.append_nil]
    refine List.map_congr_left fun k _ => Prod.ext rfl ?_
    rw [List.filter_append]
    by_cases hk : key a = k
    · simp [hk]
    · simp [hk, Ne.symm hk]
  · have hnew : ([a].map key).removeAll (l.map key) = [key a] := by
      simpa [List.removeAll] using ha
    have hkeys : key a ∉ (groupsBy key l).map Prod.fst := by
      rw [groupsBy, List.map_map]
      simpa using ha
    have hnone : l.filter (key · = key a) = [] :=
      List.filter_eq_nil_iff.mpr fun b hb => by
        simpa using fun heq => ha (List.mem_map.mpr ⟨b, hb, heq⟩)
    rw [← groupsBy, gather_of_not_mem hkeys, hnew, groupsBy]
    refine congrArg₂ (· ++ ·) (List.map_congr_left fun k hk => Prod.ext rfl ?_) ?_
    · have hne : key a ≠ k := fun heq => ha (heq ▸ List.mem_eraseDups.mp hk)
      rw [List.filter_append]
      simp [hne]
    · rw [List.eraseDups_cons, List.filter_nil, List.eraseDups_nil, List.map_singleton,
        List.filter_append, hnone]
      simp

/-- **What gathering comes to**: the groups are read off the list. -/
theorem foldl_gather (key : α → κ) (l : List α) : l.foldl (gather key) [] = groupsBy key l := by
  induction l using List.reverseRecOn with
  | nil => rfl
  | append_singleton l a ih =>
    rw [List.foldl_append, ih, List.foldl_cons, List.foldl_nil, gather_groupsBy]

end

/-! ## Loose declarations -/

/-- The files and namespaces of the loose declarations of a list, each where it first occurs. -/
def looseKeys (ds : List Decl) : List LooseKey :=
  ((ds.filter Decl.isLoose).map Decl.looseKey).eraseDups

/-- The loose declarations of a list with one file and namespace. -/
def looseMembers (ds : List Decl) (key : LooseKey) : List Decl :=
  (ds.filter Decl.isLoose).filter (·.looseKey = key)

theorem looseGroups_eq_foldl (ds : List Decl) :
    looseGroups ds = (ds.filter Decl.isLoose).foldl (gather Decl.looseKey) [] := by
  rw [looseGroups, List.foldl_filter]

theorem looseGroups_eq (ds : List Decl) :
    looseGroups ds = (looseKeys ds).map fun key => (key, looseMembers ds key) := by
  rw [looseGroups_eq_foldl, foldl_gather]
  rfl

/-- **The groups make up the loose declarations.** -/
theorem perm_flatMap_looseGroups (ds : List Decl) :
    ((looseGroups ds).flatMap Prod.snd).Perm (ds.filter Decl.isLoose) := by
  rw [looseGroups_eq_foldl]
  exact perm_flatMap_foldl_gather Decl.looseKey (ds.filter Decl.isLoose) []

theorem perm_filter_append_looseGroups (ds : List Decl) :
    ((ds.filter fun d => !d.isLoose) ++ (looseGroups ds).flatMap Prod.snd).Perm ds := by
  have hsplit := List.filter_append_perm (fun d : Decl => !d.isLoose) ds
  simp only [Bool.not_not] at hsplit
  exact ((perm_flatMap_looseGroups ds).append_left _).trans hsplit

namespace Library

/-- The containers take consecutive ids, in the order of the groups. -/
theorem looseContainers_cons (L : Library) (first : DeclId) (key : LooseKey)
    (members : List Decl) (groups : List (LooseKey × List Decl)) :
    L.looseContainers first ((key, members) :: groups)
      = L.looseContainer first key members :: L.looseContainers (first + 1) groups := by
  rw [looseContainers, List.zipIdx_cons', List.map_cons, List.map_map]
  refine congrArg (L.looseContainer first key members :: ·) (List.map_congr_left fun x _ => ?_)
  obtain ⟨⟨key', members'⟩, i⟩ := x
  simp only [Function.comp_apply, Prod.map_apply, id_eq]
  rw [Nat.add_assoc, Nat.add_comm 1]

end Library

end NativeApi

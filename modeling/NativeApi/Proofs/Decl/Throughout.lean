import Mathlib.Data.List.Forall2
import NativeApi.Decl.Tree
import NativeApi.Library.Lookup

/-!
# Trees of one shape

Two trees of one shape with related declarations at every position.  What a pass that keeps the
shape of the trees makes of a library is said position by position in this way.

* `Decl.Throughout`: the relation of two trees, given that of their declarations.
* `Decl.Throughout.visits`: both trees are visited in the same order, below related declarations.
* `Decl.rel_declBelow?`: related declarations are found at the same paths.
-/

namespace NativeApi

/-- Two trees of one shape with related declarations at every position. -/
inductive Decl.Throughout (R : Decl → Decl → Prop) : Decl → Decl → Prop
  | node {d d' : Decl} : R d d' → List.Forall₂ (Throughout R) d.children d'.children →
      Throughout R d d'

/-- Two visits of related declarations below related declarations. -/
structure Visit.Rel (R : Decl → Decl → Prop) (v v' : Visit) : Prop where
  above : List.Forall₂ R v.above v'.above
  decl : R v.decl v'.decl

theorem rel_getElem? {α β : Type} {R : α → β → Prop} {xs : List α} {ys : List β}
    (h : List.Forall₂ R xs ys) (i : Nat) : Option.Rel R xs[i]? ys[i]? := by
  induction h generalizing i with
  | nil => exact .none
  | cons hhead _ ih =>
    cases i with
    | zero => exact .some hhead
    | succ i =>
      rw [List.getElem?_cons_succ, List.getElem?_cons_succ]
      exact ih i

/-- Where a test tells related entries alike, the first ones to pass it are related. -/
theorem rel_find? {α β : Type} {R : α → β → Prop} {p : α → Bool} {q : β → Bool}
    (htest : ∀ x y, R x y → q y = p x) {xs : List α} {ys : List β} (h : List.Forall₂ R xs ys) :
    Option.Rel R (xs.find? p) (ys.find? q) := by
  induction h with
  | nil => exact .none
  | @cons x y xs ys hhead _ ih =>
    rw [List.find?_cons, List.find?_cons, htest x y hhead]
    cases p x with
    | true => exact .some hhead
    | false => exact ih

theorem forall₂_filter {α β : Type} {R : α → β → Prop} {p : α → Bool} {q : β → Bool}
    (htest : ∀ x y, R x y → q y = p x) {xs : List α} {ys : List β} (h : List.Forall₂ R xs ys) :
    List.Forall₂ R (xs.filter p) (ys.filter q) :=
  List.rel_filter (fun x y hxy => Bool.eq_iff_iff.mp (htest x y hxy).symm) h

/-- What related entries have in common makes equal lists. -/
theorem map_eq_of_forall₂ {α β γ : Type} {f : α → γ} {g : β → γ} {xs : List α} {ys : List β}
    (h : List.Forall₂ (fun x y => g y = f x) xs ys) : ys.map g = xs.map f := by
  induction h with
  | nil => rfl
  | cons hhead _ ih => rw [List.map_cons, List.map_cons, hhead, ih]

/-- Lists in which the entries have something in common pairwise are related entry by entry. -/
theorem forall₂_of_map_eq {α β γ : Type} {f : α → γ} {g : β → γ} {R : α → β → Prop} {xs : List α}
    {ys : List β} (h : ys.map g = xs.map f) (hR : ∀ x ∈ xs, ∀ y ∈ ys, g y = f x → R x y) :
    List.Forall₂ R xs ys := by
  induction xs generalizing ys with
  | nil =>
    rw [List.map_eq_nil_iff.mp h]
    exact .nil
  | cons x xs ih =>
    cases ys with
    | nil => exact absurd h nofun
    | cons y ys =>
      obtain ⟨hhead, htail⟩ := List.cons.inj h
      refine .cons (hR x (List.mem_cons_self ..) y (List.mem_cons_self ..) hhead) ?_
      exact ih htail fun x hx y hy => hR x (List.mem_cons_of_mem _ hx) y (List.mem_cons_of_mem _ hy)

namespace Decl

variable {R S : Decl → Decl → Prop} {d d' : Decl}

namespace Throughout

theorem rel (h : d.Throughout R d') : R d d' := by
  cases h with
  | node hhere _ => exact hhere

theorem children (h : d.Throughout R d') :
    List.Forall₂ (Throughout R) d.children d'.children := by
  cases h with
  | node _ hbelow => exact hbelow

/-- **Induction over two trees of one shape.** -/
theorem induction {P : Decl → Decl → Prop}
    (step : ∀ {d d' : Decl}, R d d' → List.Forall₂ P d.children d'.children → P d d')
    (h : d.Throughout R d') : P d d' := by
  induction d using Decl.induction generalizing d' with
  | step d ih =>
    have hbelow : List.Forall₂ (fun c c' => (∀ e, c.Throughout R e → P c e) ∧ c.Throughout R c')
        d.children d'.children :=
      (List.forall₂_and_left _ _).mpr ⟨fun c hc _ => ih c hc, h.children⟩
    exact step h.rel (hbelow.imp fun c c' hc => hc.1 c' hc.2)

theorem refl (hR : ∀ e, R e e) (d : Decl) : d.Throughout R d := by
  induction d using Decl.induction with
  | step d ih => exact .node (hR d) (List.forall₂_same.mpr ih)

theorem mono (hRS : ∀ {e e' : Decl}, R e e' → S e e') (h : d.Throughout R d') :
    d.Throughout S d' :=
  h.induction fun hhere hbelow => .node (hRS hhere) hbelow

theorem visits (h : d.Throughout R d') {above above' : List Decl}
    (habove : List.Forall₂ R above above') :
    List.Forall₂ (Visit.Rel R) (d.visits above) (d'.visits above') := by
  refine h.induction (P := fun d d' => ∀ {above above'}, List.Forall₂ R above above' →
    List.Forall₂ (Visit.Rel R) (d.visits above) (d'.visits above')) ?_ habove
  intro d d' hhere hbelow above above' habove
  rw [visits_eq, visits_eq]
  refine .cons ⟨habove, hhere⟩ ?_
  exact List.rel_flatMap hbelow fun _ _ hc => hc (.cons hhere habove)

theorem subtree (h : d.Throughout R d') : List.Forall₂ R d.subtree d'.subtree := by
  rw [← map_decl_visits [] d, ← map_decl_visits [] d']
  exact List.rel_map (fun _ _ hv => hv.decl) (h.visits .nil)

end Throughout

/-- Trees that are related throughout have the same positions. -/
theorem rel_declBelow? {ds ds' : List Decl} (h : List.Forall₂ (Throughout R) ds ds')
    (path : List Nat) :
    Option.Rel R (Library.declBelow? ds path) (Library.declBelow? ds' path) := by
  induction path generalizing ds ds' with
  | nil => exact .none
  | cons i path ih =>
    have hentry := rel_getElem? h i
    generalize hd : ds[i]? = d at hentry
    generalize hd' : ds'[i]? = d' at hentry
    cases path with
    | nil =>
      simp only [Library.declBelow?, hd, hd']
      cases hentry with
      | none => exact .none
      | some hentry => exact .some hentry.rel
    | cons j path =>
      simp only [Library.declBelow?, hd, hd']
      cases hentry with
      | none => exact .none
      | some hentry => exact ih hentry.children

end Decl

end NativeApi

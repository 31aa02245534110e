import NativeApi.Proofs.Pass.Rebuilding
import NativeApi.Proofs.Typedefs.Expansion

/-!
# Stripping of typedefs

The pass that strips typedefs decides by the declarations alone, so what it makes of a library is a
function of the trees: the typedefs go, and every other declaration stays in its place with its
types expanded and its handles settled.

* `Library.stripped`: what the pass makes of a declaration that is no typedef.
* `applyType_typedefStripping`: the engine expands a type.
* `run_typedefStripping`: the library after a run.
* `Library.visits_typedefStripping`: its walk is that of the old library without the typedefs.
* `Library.run_typedefStripping_again`: a second run changes nothing.
-/

namespace NativeApi

/-! ## Handles -/

theorem Decl.fills_typedef {d : Decl} (h : d.typedef?.isSome = true) (slot : Slot) :
    d.fills slot = false := by
  rw [fills_eq, isSome_typedef?_iff.mp h]
  cases slot <;> rfl

/-! ## Stripped declarations -/

namespace Library

/-- A declaration with its types expanded, its handles settled and the typedefs inside it gone. -/
def stripped (L : Library) (d : Decl) : Decl :=
  { d with
    kind := ((d.kind.mapType L.withoutTypedefs).mapHandles (settledHandle d.children)).withChildren
      (d.children.attach.flatMap fun ⟨c, _⟩ => if c.typedef?.isSome then [] else [L.stripped c]) }
termination_by sizeOf d
decreasing_by exact Decl.sizeOf_lt_of_mem_children ‹_›

/-- What stays in the place of a declaration. -/
def remainder (L : Library) (d : Decl) : List Decl :=
  if d.typedef?.isSome then [] else [L.stripped d]

def strippedAll (L : Library) (ds : List Decl) : List Decl :=
  (ds.filter fun d => d.typedef?.isNone).map L.stripped

variable {L : Library}

theorem remainder_typedef {d : Decl} (h : d.typedef?.isSome = true) : L.remainder d = [] :=
  if_pos h

theorem remainder_other {d : Decl} (h : d.typedef? = none) : L.remainder d = [L.stripped d] := by
  rw [remainder, h]
  rfl

theorem flatMap_remainder (L : Library) (ds : List Decl) :
    ds.flatMap L.remainder = L.strippedAll ds := by
  induction ds with
  | nil => rfl
  | cons d rest ih =>
    rw [List.flatMap_cons, ih, strippedAll, strippedAll]
    cases h : d.typedef? with
    | none => rw [remainder_other h, List.filter_cons_of_pos (by rw [h]; rfl)]; rfl
    | some type =>
      rw [remainder_typedef (by rw [h]; rfl), List.filter_cons_of_neg (by rw [h]; simp)]
      rfl

theorem stripped_eq (L : Library) (d : Decl) :
    L.stripped d =
      { d with
        kind := ((d.kind.mapType L.withoutTypedefs).mapHandles
          (settledHandle d.children)).withChildren (L.strippedAll d.children) } := by
  rw [stripped, ← flatMap_remainder, List.flatMap_subtype (g := L.remainder) fun _ _ => rfl,
    List.unattach_attach]

theorem form_stripped (L : Library) (d : Decl) : (L.stripped d).kind.form = d.kind.form := by
  rw [stripped_eq, Kind.form_withChildren, Kind.form_mapHandles, Kind.form_mapType]

theorem typedef?_stripped {d : Decl} (h : d.typedef? = none) : (L.stripped d).typedef? = none := by
  rw [← Option.not_isSome_iff_eq_none, Decl.isSome_typedef?_iff] at h ⊢
  rwa [form_stripped]

theorem continues_stripped (L : Library) (d : Decl) : d.Continues (L.stripped d) := by
  have hform := L.form_stripped d
  rw [stripped_eq] at hform ⊢
  exact .of_kind hform

theorem type?_stripped (L : Library) (d : Decl) :
    (L.stripped d).kind.type? = d.kind.type?.map L.withoutTypedefs := by
  rw [stripped_eq, Kind.type?_withChildren, Kind.type?_mapHandles, Kind.type?_mapType]

theorem children_stripped (L : Library) (d : Decl) :
    (L.stripped d).children = L.strippedAll d.children := by
  rw [stripped_eq]
  refine Kind.children_withChildren fun hnil => ?_
  rw [Kind.children_mapHandles, Kind.children_mapType] at hnil
  rw [Decl.children, hnil]
  rfl

/-- Siblings with what stays in their places. -/
def strippings (L : Library) (ds : List Decl) : List Replacement :=
  ds.map fun d => (d, L.remainder d)

theorem strippings_fst (L : Library) (ds : List Decl) : (L.strippings ds).map Prod.fst = ds := by
  rw [strippings, List.map_map]
  exact List.map_id ds

theorem strippings_snd (L : Library) (ds : List Decl) :
    (L.strippings ds).flatMap Prod.snd = L.strippedAll ds := by
  rw [strippings, List.flatMap_map, ← flatMap_remainder]

theorem staysOrGoes_of_mem_strippings {ds : List Decl} {r : Replacement}
    (hr : r ∈ L.strippings ds) : r.StaysOrGoes := by
  obtain ⟨d, _, rfl⟩ := List.mem_map.mp hr
  cases h : d.typedef? with
  | none => exact .inr ⟨_, remainder_other h, L.continues_stripped d⟩
  | some type => exact .inl (remainder_typedef (by rw [h]; rfl))

/-- The engine rebuilds a declaration into the stripped one. -/
theorem stripped_eq_rebuild (L : Library) (d : Decl) :
    L.stripped d =
      { d with kind := (d.kind.mapType L.withoutTypedefs).rebuild (L.strippings d.children) } := by
  have hhandles : retarget (L.strippings d.children) = settledHandle d.children := by
    funext handle slot
    rw [retarget_eq_settledHandle (fun r hr => staysOrGoes_of_mem_strippings hr),
      strippings_fst]
    rintro r hr hgone slot
    obtain ⟨d, _, rfl⟩ := List.mem_map.mp hr
    refine Decl.fills_typedef ?_ slot
    by_contra hother
    rw [Option.not_isSome_iff_eq_none] at hother
    exact absurd ((remainder_other hother).symm.trans hgone) (List.cons_ne_nil _ _)
  rw [stripped_eq, Kind.rebuild, hhandles, strippings_snd]

theorem handlesSettled_stripped (L : Library) (d : Decl) :
    (L.stripped d).kind.HandlesSettled := by
  rw [stripped_eq_rebuild]
  exact Kind.handlesSettled_rebuild fun _ hr => staysOrGoes_of_mem_strippings hr

end Library

/-! ## Runs -/

/-- **The engine expands a type.** -/
theorem applyType_typedefStripping (ctx : Context) (type : TypeRef) (s : Progress Unit) :
    typedefStripping.applyType ctx type s = (ctx.library.withoutTypedefs type, s) := by
  induction type using TypeRef.induction generalizing s with
  | pointer target ih =>
    have hook : typedefStripping.type? ctx (.pointer target) s = (none, s) := rfl
    rw [Pass.applyType_eq, hook, Library.withoutTypedefs_pointer]
    dsimp only
    rw [ih]
  | function result parameters convention ihresult ihparameters =>
    have hook : typedefStripping.type? ctx (.function result parameters convention) s
        = (none, s) := rfl
    rw [Pass.applyType_eq, hook, Library.withoutTypedefs_function]
    dsimp only
    rw [ihresult, Pass.applyTypes_eq_map ihparameters]
  | decl ref => rw [Pass.applyType_eq]; rfl
  | void => rw [Pass.applyType_eq, Library.withoutTypedefs_void]; rfl
  | scalar s => rw [Pass.applyType_eq, Library.withoutTypedefs_scalar]; rfl
  | native spelling => rw [Pass.applyType_eq, Library.withoutTypedefs_native]; rfl

theorem applyOwnType_typedefStripping (ctx : Context) (k : Kind Decl) (s : Progress Unit) :
    typedefStripping.applyOwnType ctx k s = (k.mapType ctx.library.withoutTypedefs, s) :=
  Pass.applyOwnType_eq_mapType (applyType_typedefStripping ctx) k s

/-- **What a run makes of siblings.** -/
theorem applyAll_typedefStripping (ctx : Context) (ds : List Decl) (s : Progress Unit) :
    typedefStripping.applyAll ctx ds s = (ctx.library.strippings ds, s) := by
  have key := Pass.run_induction (p := typedefStripping)
    (P := fun ctx d s news s' => news = ctx.library.remainder d ∧ s' = s)
    (Q := fun ctx ds s replacements s' => replacements = ctx.library.strippings ds ∧ s' = s)
    ?nil ?cons ?decl
  case nil =>
    intro ctx s
    exact ⟨rfl, rfl⟩
  case cons =>
    rintro ctx d rest s news s' replacements s'' ⟨rfl, rfl⟩ ⟨rfl, rfl⟩
    exact ⟨rfl, rfl⟩
  case decl =>
    rintro ctx d s kind s₁ replacements s₂ answer s₃ htype _ ⟨rfl, rfl⟩ hanswer
    rw [applyOwnType_typedefStripping, Prod.mk.injEq] at htype
    obtain ⟨rfl, rfl⟩ := htype
    have hgiven := ctx.library.stripped_eq_rebuild d
    rw [show (ctx.enter d).library = ctx.library from rfl] at hanswer ⊢
    rw [← hgiven] at hanswer ⊢
    rw [typedefStripping_decl] at hanswer
    obtain ⟨rfl, rfl⟩ := Prod.mk.inj hanswer
    refine ⟨?_, rfl⟩
    cases h : d.typedef? with
    | none =>
      rw [Library.remainder_other h, Library.typedef?_stripped h]
      rfl
    | some type =>
      have htypedef : d.typedef?.isSome = true := by rw [h]; rfl
      have hstripped : (ctx.library.stripped d).typedef?.isSome = true := by
        rw [Decl.isSome_typedef?_iff, Library.form_stripped]
        exact Decl.isSome_typedef?_iff.mp htypedef
      rw [Library.remainder_typedef htypedef, if_pos hstripped]
      rfl
  exact Prod.ext (key.2 ctx ds s).1 (key.2 ctx ds s).2

/-- **The library after a run.** -/
theorem run_typedefStripping (L : Library) :
    typedefStripping.run L ()
      = ((L.withRoots (L.strippedAll L.roots)).withNextId (max L.nextId 1), ()) := by
  rw [Pass.run_eq, applyAll_typedefStripping]
  dsimp only
  rw [show (Context.root L).library = L from rfl, Library.strippings_snd]
  rfl

/-! ## Places -/

/-- A visit after the run: the same way down, everything on it stripped. -/
def Visit.stripped (L : Library) (v : Visit) : Visit := ⟨v.above.map L.stripped, L.stripped v.decl⟩

namespace Library

variable {L : Library}

theorem children_of_typedef {d : Decl} (h : d.typedef?.isSome = true) : d.children = [] := by
  obtain ⟨type, hkind⟩ := Kind.form_eq_typedef_iff.mp (Decl.isSome_typedef?_iff.mp h)
  rw [Decl.children, hkind]
  rfl

theorem visits_remainder (L : Library) (above : List Decl) (d : Decl) :
    (L.remainder d).flatMap (Decl.visits (above.map L.stripped))
      = ((d.visits above).filter fun v => v.decl.typedef?.isNone).map (Visit.stripped L) := by
  induction d using Decl.induction generalizing above with
  | step d ih =>
    rw [Decl.visits_eq]
    cases h : d.typedef? with
    | none =>
      have hbelow : (L.stripped d).children.flatMap (Decl.visits ((d :: above).map L.stripped))
          = ((d.children.flatMap (Decl.visits (d :: above))).filter
              fun v => v.decl.typedef?.isNone).map (Visit.stripped L) := by
        rw [children_stripped, ← flatMap_remainder, List.flatMap_assoc, List.filter_flatMap,
          List.map_flatMap]
        exact List.flatMap_congr fun c hc => ih c hc (d :: above)
      rw [remainder_other h, List.flatMap_singleton, Decl.visits_eq,
        List.filter_cons_of_pos (by simp [h]), List.map_cons, ← hbelow]
      rfl
    | some type =>
      have htypedef : d.typedef?.isSome = true := by rw [h]; rfl
      rw [remainder_typedef htypedef, children_of_typedef htypedef,
        List.filter_cons_of_neg (by simp [h])]
      rfl

/-- **The walk after a run** is the walk before it without the typedefs. -/
theorem visits_typedefStripping (L : Library) :
    (typedefStripping.run L ()).1.visits
      = (L.visits.filter fun v => v.decl.typedef?.isNone).map (Visit.stripped L) := by
  rw [run_typedefStripping]
  show (L.strippedAll L.roots).flatMap (Decl.visits ([].map L.stripped)) = _
  rw [← flatMap_remainder, List.flatMap_assoc, visits, visitsOf, List.filter_flatMap,
    List.map_flatMap]
  exact List.flatMap_congr fun d _ => L.visits_remainder [] d

theorem decls_typedefStripping (L : Library) :
    (typedefStripping.run L ()).1.decls = L.strippedAll L.decls := by
  rw [← map_decl_visits, visits_typedefStripping, strippedAll, ← map_decl_visits L, List.filter_map,
    List.map_map, List.map_map]
  rfl

theorem mem_decls_typedefStripping {d : Decl} :
    d ∈ (typedefStripping.run L ()).1.decls ↔
      ∃ e ∈ L.decls, e.typedef? = none ∧ L.stripped e = d := by
  rw [decls_typedefStripping, strippedAll, List.mem_map]
  simp only [List.mem_filter, Option.isNone_iff_eq_none, and_assoc]

theorem typedef?_of_mem_typedefStripping :
    ∀ d ∈ (typedefStripping.run L ()).1.decls, d.typedef? = none := by
  intro d hd
  obtain ⟨e, _, hother, rfl⟩ := mem_decls_typedefStripping.mp hd
  exact typedef?_stripped hother

theorem typedefIds_eq_nil (h : ∀ d ∈ L.decls, d.typedef? = none) : L.typedefIds = [] := by
  rw [typedefIds, List.filter_eq_nil_iff.mpr fun d hd => by rw [h d hd]; exact Bool.false_ne_true,
    List.map_nil]

theorem contains_typedefStripping {id : DeclId} :
    (typedefStripping.run L ()).1.contains id = true ↔
      ∃ e ∈ L.decls, e.id = id ∧ e.typedef? = none := by
  rw [contains_iff, mem_ids_iff]
  constructor
  · rintro ⟨d, hd, rfl⟩
    obtain ⟨e, he, hother, rfl⟩ := mem_decls_typedefStripping.mp hd
    exact ⟨e, he, (L.continues_stripped e).id.symm, hother⟩
  · rintro ⟨e, he, rfl, hother⟩
    exact ⟨L.stripped e, mem_decls_typedefStripping.mpr ⟨e, he, hother, rfl⟩,
      (L.continues_stripped e).id⟩

theorem keeps_typedefStripping (hnone : L.typedefIds = []) {above : List Decl} {d : Decl}
    (hother : d.typedef? = none) (hsettled : d.kind.HandlesSettled) :
    typedefStripping.Keeps ⟨L, above⟩ d where
  handles := hsettled
  ownType s := by
    rw [applyOwnType_typedefStripping]
    exact Kind.mapType_eq_self (withoutTypedefs_of_no_typedefs hnone) d.kind
  ownType_ids s := by rw [applyOwnType_typedefStripping]
  answer s := by
    rw [typedefStripping_decl, hother]
    rfl
  answer_ids s := by rw [typedefStripping_decl]

/-- **A second run changes nothing.** -/
theorem run_typedefStripping_again (L : Library) :
    (typedefStripping.run (typedefStripping.run L ()).1 ()).1 = (typedefStripping.run L ()).1 := by
  have hnext : 1 ≤ (typedefStripping.run L ()).1.nextId := by
    rw [run_typedefStripping]
    exact Nat.le_trans (Nat.le_max_right _ _) (Nat.le_max_left _ _)
  have hnone := typedefIds_eq_nil (L := (typedefStripping.run L ()).1)
    typedef?_of_mem_typedefStripping
  obtain ⟨_, hrun⟩ := Pass.run_of_keeps typedefStripping hnext (fun v hv => by
    have hmem := mem_decls_iff.mpr ⟨v, hv, rfl⟩
    obtain ⟨e, _, _, he⟩ := mem_decls_typedefStripping.mp hmem
    refine keeps_typedefStripping hnone (typedef?_of_mem_typedefStripping _ hmem) ?_
    rw [← he]
    exact L.handlesSettled_stripped e) ()
  rw [hrun]
  rfl

end Library

end NativeApi

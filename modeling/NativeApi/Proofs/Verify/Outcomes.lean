import NativeApi.Proofs.Verify.Places

/-!
# Positions in the verified library

Verification neither takes a declaration away nor moves it; all it adds are the containers of
enums, and those stand in the places of the enums.  So a position before names a declaration after,
without regard to ids, which need not be distinct.

* `Decl.outcome`: the declaration itself, given what stands in its place.  The two forms tell
  whether that is a container.
* `Library.outcomeAt?`: what became of the declaration at a path.
* `exists_outcome`: **every declaration is still there, at its position, and it is settled**.
-/

namespace NativeApi

variable {default : CallingConvention} {L N : Library}

/-! ## Outcomes -/

/-- What became of a declaration, given what stands in its place: that, or what is inside, if it
is a container that was put around. -/
def Decl.outcome (d d' : Decl) : Decl :=
  if d'.kind.form = d.kind.form then d' else d'.children.headD d'

/-- What became of the declaration at a path below a list, given what stands in the places of
those in the list. -/
def Decl.outcomeBelow? : List Decl → List Decl → List Nat → Option Decl
  | _, _, [] => none
  | ds, ds', [i] =>
    match ds[i]?, ds'[i]? with
    | some d, some d' => some (d.outcome d')
    | _, _ => none
  | ds, ds', i :: j :: path =>
    match ds[i]?, ds'[i]? with
    | some d, some d' => outcomeBelow? d.children (d.outcome d').children (j :: path)
    | _, _ => none

/-- What became of the declaration at a path, given the library afterwards. -/
def Library.outcomeAt? (L M : Library) (path : List Nat) : Option Decl :=
  Decl.outcomeBelow? L.roots M.roots path

theorem SettledPart.outcome_result {ctx : Context} {p : SettledPart}
    (hwrap : p.container?.isSome = ctx.needsContainer p.original)
    (hcontinues : p.original.Continues p.settled) : p.original.outcome p.result = p.settled := by
  cases hcontainer : p.container? with
  | none => rw [result_of_none hcontainer, Decl.outcome, if_pos hcontinues.form]
  | some id =>
    rw [hcontainer] at hwrap
    have hform : p.original.kind.form = .enumeration := Context.form_of_needsContainer hwrap.symm
    rw [result_of_some hcontainer, Decl.outcome, if_neg (by rw [hform]; nofun)]
    rfl

theorem SettledAll.exists_settled {above ds : List Decl} {parts : List SettledPart}
    (h : SettledAll default L N above ds parts) {i : Nat} {d : Decl} (hd : ds[i]? = some d) :
    ∃ part, parts[i]? = some part ∧ Settles default L N above d part.settled ∧
      d.outcome part.result = part.settled := by
  obtain ⟨part, hpart, rfl⟩ := h.exists_part hd
  have hmem : part ∈ parts := List.mem_of_getElem? hpart
  have hsettles := h.settles part hmem
  exact ⟨part, hpart, hsettles,
    SettledPart.outcome_result (h.wraps part hmem) hsettles.continues⟩

/-- What was at a path below declarations that settled is settled, below the same ancestors. -/
theorem SettledAll.exists_outcome {above ds : List Decl} {parts : List SettledPart}
    (h : SettledAll default L N above ds parts) {path : List Nat} {v : Visit}
    (hv : Library.visitBelow? above ds path = some v) :
    ∃ d', Decl.outcomeBelow? ds (parts.map SettledPart.result) path = some d' ∧
      Settles default L N v.above v.decl d' := by
  induction above, ds, path using Library.visitBelow?.induct generalizing parts with
  | case1 _ _ => simp [Library.visitBelow?] at hv
  | case2 above ds i =>
    obtain ⟨d, hd, rfl⟩ := Option.map_eq_some_iff.mp hv
    obtain ⟨part, hpart, hsettles, houtcome⟩ := h.exists_settled hd
    refine ⟨part.settled, ?_, hsettles⟩
    rw [Decl.outcomeBelow?, hd, List.getElem?_map, hpart]
    exact congrArg some houtcome
  | case3 above ds i j path d hd ih =>
    obtain ⟨part, hpart, hsettles, houtcome⟩ := h.exists_settled hd
    obtain ⟨inner, hinner, hsettled⟩ := hsettles.exists_parts
    rw [Library.visitBelow?, hd] at hv
    obtain ⟨d', hd', hsettles'⟩ := ih hinner hv
    refine ⟨d', ?_, hsettles'⟩
    rw [Decl.outcomeBelow?, hd, List.getElem?_map, hpart]
    dsimp only [Option.map_some]
    rw [houtcome, hsettled, hinner.children_settle]
    exact hd'
  | case4 above ds i j path hd =>
    simp [Library.visitBelow?, hd] at hv

/-- **Every declaration is still there after verification, and it is settled.** -/
theorem exists_outcome (default : CallingConvention) (L : Library) {path : List Nat} {v : Visit}
    (hv : Library.visitBelow? [] L.roots path = some v) :
    ∃ d', L.outcomeAt? (verify default L) path = some d' ∧
      Settles default L (verify default L) v.above v.decl d' := by
  obtain ⟨parts, hparts, hroots⟩ := verify_settles default L
  obtain ⟨d', hd', hsettles⟩ := hparts.exists_outcome hv
  refine ⟨d', ?_, hsettles⟩
  rw [Library.outcomeAt?, hroots]
  exact hd'

end NativeApi

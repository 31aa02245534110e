import NativeApi.Proofs.Library.Lookup
import NativeApi.Proofs.Verify.Marking

/-!
# Verification in one walk

Verification walks over a library twice: the rules first, then the references.  The outcome is that
of a single walk from the leaves up, in which each declaration is settled (`Context.settle`): it
gets its settled children, is checked in its original place, and its references are looked up in
the verified library.  Around an enum that can stay in no form a container is put.

`Settles` is that walk as a relation.  It leaves open which unused ids the containers get, and
nothing else, so whatever verification does to a declaration is read off its one rule.

* `verify_settles`: the roots of the verified library are what the roots settle into.
* `Settles.continues`: a settled declaration continues the original.
* `Context.hasErrors_settle`: an error that is found stays.
-/

namespace NativeApi

/-! ## Settling one declaration -/

namespace Context

/-- A declaration checked in its place, with its references looked up in a library. -/
def settle (ctx : Context) (default : CallingConvention) (N : Library) (d : Decl) : Decl :=
  { ctx.check default d with
    diagnostics := Issue.attachAll (ctx.check default d).diagnostics (N.danglingIssues d) }

variable (ctx : Context) (default : CallingConvention) (N : Library) (d : Decl)

theorem diagnostics_settle : (ctx.settle default N d).diagnostics
    = Issue.attachAll d.diagnostics (ctx.issues default d ++ N.danglingIssues d) :=
  (Issue.attachAll_append _ _ _).symm

theorem continues_settle : d.Continues (ctx.settle default N d) :=
  ⟨rfl, ctx.form_repairedKind d.kind, by
    rw [diagnostics_settle]
    exact Issue.isPrefix_attachAll _ _⟩

theorem hasErrors_settle {issue : Issue}
    (h : issue ∈ ctx.issues default d ++ N.danglingIssues d) (herror : issue.severity = .error) :
    (ctx.settle default N d).hasErrors = true := by
  unfold Decl.hasErrors
  rw [diagnostics_settle]
  exact (Diagnostics.records_attachAll h _).hasErrors herror

theorem severity_ne_of_settle {ctx : Context} {default : CallingConvention} {N : Library}
    {d : Decl} (hclean : (ctx.settle default N d).hasErrors = false) :
    ∀ issue ∈ ctx.issues default d ++ N.danglingIssues d, issue.severity ≠ .error := by
  intro issue hissue herror
  rw [ctx.hasErrors_settle default N d hissue herror] at hclean
  exact absurd hclean (by decide)

theorem children_settle : (ctx.settle default N d).children = d.children :=
  ctx.children_repairedKind d.kind

theorem declRefs_check : (ctx.check default d).kind.declRefs = d.kind.declRefs := by
  obtain ⟨id, name, scope, accessibility, file, diagnostics, metadata, kind⟩ := d
  cases kind <;> rfl

theorem danglingIssues_check :
    N.danglingIssues (ctx.check default d) = N.danglingIssues d := by
  unfold Library.danglingIssues Library.danglingNames
  rw [declRefs_check]

end Context

theorem Context.handlesSettled_repairedKind (ctx : Context) {k : Kind Decl}
    (h : k.HandlesSettled) : (ctx.repairedKind k).HandlesSettled := by
  cases k with
  | record r => exact h
  | _ => rfl

/-- Marking a checked declaration with rebuilt children settles the declaration. -/
theorem Library.mark_check (N : Library) (ctx : Context) (default : CallingConvention) {d : Decl}
    {children : List Decl} (hnil : d.children = [] → children = [])
    (h : d.kind.form = .record → List.Forall₂ Decl.Continues d.children children) :
    N.mark (ctx.check default (d.withSettled children))
      = ctx.settle default N (d.withSettled (children.map N.mark)) := by
  have hchildren : (ctx.check default (d.withSettled children)).children = children := by
    rw [ctx.children_check, Decl.children_withSettled hnil]
  have hsettled : (ctx.check default (d.withSettled children)).kind.HandlesSettled :=
    ctx.handlesSettled_repairedKind (Decl.handlesSettled_withSettled h)
  have hkind : (ctx.check default (d.withSettled children)).withSettled (children.map N.mark)
      = ctx.check default (d.withSettled (children.map N.mark)) := by
    have houtline : (children.map N.mark).map Decl.outline
        = (d.withSettled children).children.map Decl.outline := by
      rw [Decl.children_withSettled hnil, List.map_map]
      exact List.map_congr_left fun c _ => N.outline_mark c
    have hchildren := ctx.check_withChildren default (d.withSettled children)
      (Kind.view_of_outlines houtline)
    have hnew : Decl.mk d.id d.name d.scope d.accessibility d.file d.diagnostics d.metadata
        ((d.withSettled children).kind.withChildren (children.map N.mark))
        = d.withSettled (children.map N.mark) := by
      rw [Decl.withSettled, Decl.withSettled, Kind.withChildren_withChildren]
    rw [← hnew]
    refine Eq.trans ?_ hchildren.symm
    rw [Decl.withSettled]
    exact congrArg (fun k : Kind Decl =>
      { ctx.check default (d.withSettled children) with
        kind := k.withChildren (children.map N.mark) }) hsettled
  have hdiagnostics : (ctx.check default (d.withSettled children)).diagnostics
      = (ctx.check default (d.withSettled (children.map N.mark))).diagnostics := by
    have hboth := congrArg Decl.diagnostics hkind
    exact hboth
  rw [mark_eq, hchildren, hkind, ctx.danglingIssues_check, danglingIssues_withSettled,
    Context.settle, danglingIssues_withSettled, hdiagnostics]

/-! ## Settled trees -/

/-- A declaration with what it settled into, and the id of the container around that, if there is
one. -/
structure SettledPart where
  original : Decl
  settled : Decl
  container? : Option DeclId

namespace SettledPart

/-- What takes the place of the original. -/
def result (p : SettledPart) : Decl :=
  match p.container? with
  | none => p.settled
  | some id => enumContainer id p.settled

theorem result_of_none {p : SettledPart} (h : p.container? = none) : p.result = p.settled := by
  rw [result, h]

theorem result_of_some {p : SettledPart} {id : DeclId} (h : p.container? = some id) :
    p.result = enumContainer id p.settled := by
  rw [result, h]

end SettledPart

/-- `Settles default L N above d d'`: verification of `L`, with references looked up in `N`, turns
the declaration `d` below `above` into `d'`. -/
inductive Settles (default : CallingConvention) (L N : Library) : List Decl → Decl → Decl → Prop
  | node {above : List Decl} {d : Decl} (parts : List SettledPart) :
      parts.map SettledPart.original = d.children →
      (∀ p ∈ parts, Settles default L N (d :: above) p.original p.settled) →
      (∀ p ∈ parts, p.container?.isSome
        = (Context.mk L (d :: above)).needsContainer p.original) →
      (∀ p ∈ parts, ∀ id, p.container? = some id → L.nextId ≤ id) →
      Settles default L N above d
        ((Context.mk L above).settle default N (d.withSettled (parts.map SettledPart.result)))

theorem Settles.continues {default : CallingConvention} {L N : Library} {above : List Decl}
    {d d' : Decl} (h : Settles default L N above d d') : d.Continues d' := by
  cases h with
  | node parts _ _ _ _ =>
    exact (d.continues_withSettled _).trans (Context.continues_settle _ default N _)

/-! ### No containers in records -/

theorem Context.needsContainer_withSettled (ctx : Context) (d : Decl) (children : List Decl) :
    ctx.needsContainer (d.withSettled children) = ctx.needsContainer d := by
  obtain ⟨id, name, scope, accessibility, file, diagnostics, metadata, kind⟩ := d
  cases kind <;> rfl

theorem Context.needsContainer_eq_false_of_hostsMembers {ctx : Context}
    (h : ctx.hostsMembers = true) (d : Decl) : ctx.needsContainer d = false := by
  unfold needsContainer wrapsEnum
  split
  · rw [h]
    rfl
  · rfl

theorem Context.hostsMembers_enter (ctx : Context) (d : Decl) :
    (ctx.enter d).hostsMembers = d.kind.hostsMembers := rfl

theorem Context.hostsMembers_enter_of_record (ctx : Context) {d : Decl}
    (h : d.kind.form = .record) : (ctx.enter d).hostsMembers = true := by
  rw [hostsMembers_enter, Kind.hostsMembers_eq, h]
  rfl

/-- The parts of a record stand there without containers. -/
theorem SettledPart.continues_result {ctx : Context} {d : Decl} {p : SettledPart}
    (hwrap : p.container?.isSome = (ctx.enter d).needsContainer p.original)
    (hcontinues : p.original.Continues p.settled) (h : d.kind.form = .record) :
    p.original.Continues p.result := by
  rw [Context.needsContainer_eq_false_of_hostsMembers (ctx.hostsMembers_enter_of_record h),
    Option.isSome_eq_false_iff, Option.isNone_iff_eq_none] at hwrap
  rwa [result_of_none hwrap]

theorem SettledPart.forall₂_continues (ctx : Context) {d : Decl} {parts : List SettledPart}
    (horig : parts.map original = d.children)
    (hwrap : ∀ p ∈ parts, p.container?.isSome = (ctx.enter d).needsContainer p.original)
    (hcontinues : ∀ p ∈ parts, p.original.Continues p.settled) (h : d.kind.form = .record) :
    List.Forall₂ Decl.Continues d.children (parts.map result) := by
  rw [← horig, List.forall₂_map_left_iff, List.forall₂_map_right_iff, List.forall₂_same]
  exact fun p hp => continues_result (hwrap p hp) (hcontinues p hp) h

/-! ## The first walk -/

theorem Library.mark_enumContainer (N : Library) (id : DeclId) (d : Decl) :
    N.mark (enumContainer id d) = enumContainer id (N.mark d) := by
  have hchildren : (enumContainer id d).children.map N.mark = [N.mark d] := rfl
  rw [mark_eq N (enumContainer id d), hchildren, mark_eq N d]
  rfl

namespace SettledPart

def mark (N : Library) (p : SettledPart) : SettledPart := { p with settled := N.mark p.settled }

theorem result_mark (N : Library) (p : SettledPart) : (p.mark N).result = N.mark p.result := by
  obtain ⟨original, settled, container?⟩ := p
  cases container? with
  | none => rfl
  | some id => exact (N.mark_enumContainer id settled).symm

end SettledPart

/-- What the first walk makes of a declaration: marked, it is what the declaration settles into,
whatever library the references are looked up in. -/
structure FirstWalk (default : CallingConvention) (ctx : Context) (p : SettledPart) : Prop where
  wraps : p.container?.isSome = ctx.needsContainer p.original
  fresh : ∀ id, p.container? = some id → ctx.library.nextId ≤ id
  continues : p.original.Continues p.settled
  settles : ∀ N, Settles default ctx.library N ctx.above p.original (N.mark p.settled)

theorem FirstWalk.of_children {default : CallingConvention} {ctx : Context} {d : Decl}
    {parts : List SettledPart} (horig : parts.map SettledPart.original = d.children)
    (h : ∀ p ∈ parts, FirstWalk default (ctx.enter d) p) (N : Library) :
    Settles default ctx.library N ctx.above d
      (N.mark (ctx.check default (d.withSettled (parts.map SettledPart.result)))) := by
  have hnil : d.children = [] → parts.map SettledPart.result = [] := by
    intro hchildren
    rw [← horig, List.map_eq_nil_iff] at hchildren
    rw [hchildren]
    rfl
  have hmarked : (parts.map SettledPart.result).map N.mark
      = (parts.map (SettledPart.mark N)).map SettledPart.result := by
    rw [List.map_map, List.map_map]
    exact List.map_congr_left fun p _ => (p.result_mark N).symm
  rw [N.mark_check ctx default hnil (SettledPart.forall₂_continues ctx horig
    (fun p hp => (h p hp).wraps) fun p hp => (h p hp).continues), hmarked]
  refine Settles.node (parts.map (SettledPart.mark N)) ?_ ?_ ?_ ?_
  · rw [List.map_map]
    exact horig
  · intro q hq
    obtain ⟨p, hp, rfl⟩ := List.mem_map.mp hq
    exact (h p hp).settles N
  · intro q hq
    obtain ⟨p, hp, rfl⟩ := List.mem_map.mp hq
    exact (h p hp).wraps
  · intro q hq
    obtain ⟨p, hp, rfl⟩ := List.mem_map.mp hq
    exact (h p hp).fresh

/-- What the first walk makes of siblings, given that the ids that are left are unused. -/
theorem applyAll_verification (default : CallingConvention) (ctx : Context) (ds : List Decl)
    (s : Progress Nat) (hunused : ctx.library.nextId ≤ s.ids.next) :
    ∃ parts : List SettledPart, parts.map SettledPart.original = ds ∧
      ((verification default).applyAll ctx ds s).1 = parts.map (fun p => (p.original, [p.result])) ∧
      ∀ p ∈ parts, FirstWalk default ctx p := by
  -- the ids that are left stay unused from one sibling to the next
  have key := Pass.run_induction (p := verification default)
    (P := fun ctx d s news s' => ctx.library.nextId ≤ s.ids.next → s.ids.next ≤ s'.ids.next ∧
      ∃ p : SettledPart, p.original = d ∧ news = [p.result] ∧ FirstWalk default ctx p)
    (Q := fun ctx ds s replacements s' => ctx.library.nextId ≤ s.ids.next →
      s.ids.next ≤ s'.ids.next ∧ ∃ parts : List SettledPart,
        parts.map SettledPart.original = ds ∧
        replacements = parts.map (fun p => (p.original, [p.result])) ∧
        ∀ p ∈ parts, FirstWalk default ctx p)
    (fun _ _ _ => ⟨Nat.le_refl _, [], rfl, rfl, fun _ hp => absurd hp List.not_mem_nil⟩) ?cons ?decl
  case cons =>
    intro ctx d rest s news s' replacements s'' hd hrest hunused
    obtain ⟨hle, p, rfl, rfl, hp⟩ := hd hunused
    obtain ⟨hle', parts, rfl, rfl, hparts⟩ := hrest (Nat.le_trans hunused hle)
    exact ⟨Nat.le_trans hle hle', p :: parts, rfl, rfl, List.forall_mem_cons.mpr ⟨hp, hparts⟩⟩
  case decl =>
    intro ctx d s kind s₁ replacements s₂ answer s₃ htype _ hchildren hanswer hunused
    rw [Pass.applyOwnType_of_silent (fun _ _ _ => rfl), Prod.mk.injEq] at htype
    obtain ⟨rfl, rfl⟩ := htype
    obtain ⟨hle, parts, horig, rfl, hparts⟩ := hchildren hunused
    have hrebuild : d.kind.rebuild (parts.map fun p => (p.original, [p.result]))
        = (d.withSettled (parts.map SettledPart.result)).kind := by
      rw [Kind.rebuild_eq_of_continues, List.flatMap_map, ← List.map_eq_flatMap]
      · rfl
      · rw [List.map_map]
        exact horig
      · intro r hr
        obtain ⟨p, hp, rfl⟩ := List.mem_map.mp hr
        exact ⟨p.result, rfl,
          SettledPart.continues_result (hparts p hp).wraps (hparts p hp).continues⟩
    rw [hrebuild] at hanswer ⊢
    change (verification default).decl ctx (d.withSettled (parts.map SettledPart.result)) s₂
      = (answer, s₃) at hanswer
    have hneeds : ctx.needsContainer (d.withSettled (parts.map SettledPart.result))
        = ctx.needsContainer d := ctx.needsContainer_withSettled d _
    have hcontinues : d.Continues
        (ctx.check default (d.withSettled (parts.map SettledPart.result))) :=
      (d.continues_withSettled _).trans (ctx.continues_check default _)
    rw [verification_decl, hneeds] at hanswer
    by_cases hwrap : ctx.needsContainer d = true
    · rw [if_pos hwrap, Prod.mk.injEq] at hanswer
      obtain ⟨rfl, rfl⟩ := hanswer
      refine ⟨Nat.le_succ_of_le hle,
        ⟨d, ctx.check default (d.withSettled (parts.map SettledPart.result)),
          some s₂.ids.next⟩, rfl, rfl, hwrap.symm, ?_, hcontinues, ?_⟩
      · rintro id ⟨⟩
        exact Nat.le_trans hunused hle
      · exact FirstWalk.of_children horig hparts
    · rw [if_neg hwrap, Prod.mk.injEq] at hanswer
      obtain ⟨rfl, rfl⟩ := hanswer
      refine ⟨hle, ⟨d, ctx.check default (d.withSettled (parts.map SettledPart.result)), none⟩,
        rfl, rfl, (Bool.eq_false_iff.mpr hwrap).symm, nofun, hcontinues, ?_⟩
      exact FirstWalk.of_children horig hparts
  exact (key.2 ctx ds s hunused).2

/-! ## Both walks -/

/-- Declarations below `above` settle, each into a part. -/
structure SettledAll (default : CallingConvention) (L N : Library) (above : List Decl)
    (ds : List Decl) (parts : List SettledPart) : Prop where
  originals : parts.map SettledPart.original = ds
  settles : ∀ p ∈ parts, Settles default L N above p.original p.settled
  wraps : ∀ p ∈ parts, p.container?.isSome = (Context.mk L above).needsContainer p.original
  /-- No declaration of the library has the id of a container. -/
  fresh : ∀ p ∈ parts, ∀ id, p.container? = some id → L.nextId ≤ id

theorem SettledAll.exists_part {default : CallingConvention} {L N : Library}
    {above ds : List Decl} {parts : List SettledPart} (h : SettledAll default L N above ds parts)
    {i : Nat} {d : Decl} (hd : ds[i]? = some d) : ∃ p, parts[i]? = some p ∧ p.original = d := by
  rw [← h.originals, List.getElem?_map, Option.map_eq_some_iff] at hd
  exact hd

theorem Settles.exists_parts {default : CallingConvention} {L N : Library} {above : List Decl}
    {d d' : Decl} (h : Settles default L N above d d') :
    ∃ parts, SettledAll default L N (d :: above) d.children parts ∧
      d' = (Context.mk L above).settle default N
        (d.withSettled (parts.map SettledPart.result)) := by
  cases h with
  | node parts horig hsettle hwrap hfresh =>
    exact ⟨parts, ⟨horig, hsettle, hwrap, hfresh⟩, rfl⟩

theorem Library.danglingIssues_congr {M N : Library} (h : M.contains = N.contains) :
    M.danglingIssues = N.danglingIssues := by
  funext d
  rw [danglingIssues, danglingIssues, danglingNames, danglingNames, h]

theorem Library.mark_congr {M N : Library} (h : M.contains = N.contains) : M.mark = N.mark := by
  funext d
  induction d using Decl.induction with
  | step d ih =>
    rw [mark_eq, mark_eq, danglingIssues_congr h, List.map_congr_left ih]

/-- The library between the two walks of verification. -/
def Library.checked (default : CallingConvention) (L : Library) : Library :=
  let done := (verification default).applyAll (.root L) L.roots ⟨.startingAt L.nextId, 0⟩
  (L.withRoots (done.1.flatMap Prod.snd)).withNextId done.2.ids.next

theorem verify_eq (default : CallingConvention) (L : Library) :
    verify default L = ((L.checked default).withRoots
      ((L.checked default).roots.map (L.checked default).mark)).withNextId
        (max (L.checked default).nextId 1) := by
  rw [verify, Pass.run_eq]
  exact run_danglingReferences (L.checked default)

theorem files_verify (default : CallingConvention) (L : Library) :
    (verify default L).files = L.files := by
  rw [verify_eq]
  rfl

theorem broken_verify (default : CallingConvention) (L : Library) :
    (verify default L).broken = L.broken := by
  rw [verify_eq]
  rfl

theorem contains_verify (default : CallingConvention) (L : Library) :
    (verify default L).contains = (L.checked default).contains := by
  refine Library.contains_congr fun id => ?_
  rw [verify_eq]
  show id ∈ (((L.checked default).roots.map _).flatMap Decl.subtree).map Decl.id ↔
    id ∈ ((L.checked default).roots.flatMap Decl.subtree).map Decl.id
  rw [List.flatMap_map, List.map_flatMap, List.map_flatMap]
  simp only [Library.map_id_subtree_mark]

/-- **Verification settles every root**, with the references looked up in the outcome. -/
theorem verify_settles (default : CallingConvention) (L : Library) :
    ∃ parts, SettledAll default L (verify default L) [] L.roots parts ∧
      (verify default L).roots = parts.map SettledPart.result := by
  obtain ⟨parts, horig, hwalk, hparts⟩ := applyAll_verification default (.root L) L.roots
    ⟨.startingAt L.nextId, 0⟩ (Nat.le_max_left _ _)
  have hchecked : (L.checked default).roots = parts.map SettledPart.result := by
    change List.flatMap Prod.snd
      ((verification default).applyAll (.root L) L.roots ⟨.startingAt L.nextId, 0⟩).1 = _
    rw [hwalk, List.flatMap_map, List.map_eq_flatMap]
  have hroots : (verify default L).roots
      = (parts.map SettledPart.result).map (verify default L).mark := by
    rw [Library.mark_congr (contains_verify default L), ← hchecked, verify_eq]
    rfl
  refine ⟨parts.map (SettledPart.mark (verify default L)), ⟨?_, ?_, ?_, ?_⟩, ?_⟩
  · rw [List.map_map]
    exact horig
  · intro q hq
    obtain ⟨p, hp, rfl⟩ := List.mem_map.mp hq
    exact (hparts p hp).settles _
  · intro q hq
    obtain ⟨p, hp, rfl⟩ := List.mem_map.mp hq
    exact (hparts p hp).wraps
  · intro q hq
    obtain ⟨p, hp, rfl⟩ := List.mem_map.mp hq
    exact (hparts p hp).fresh
  · rw [hroots, List.map_map, List.map_map]
    exact List.map_congr_left fun p _ => (p.result_mark _).symm

end NativeApi

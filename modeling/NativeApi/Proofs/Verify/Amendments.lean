import NativeApi.Proofs.Decl.Throughout
import NativeApi.Proofs.Verify.Placement

/-!
# What verification changes

Every declaration of the verified library is an old one with a few amendments, or a container that
was put around an enum (`verify_amends`).  The containers are known by their ids, which no
declaration had before.  Without them (`Library.unwrap`) the trees have the shape they had, and at
every position the declaration is the one that was there, amended.

* `Decl.Amended`: the amendments.  Apart from the children, which have positions of their own, they
  touch the level of accessibility, the name and the metadata, three parts of three kinds, and the
  diagnostics.
* `Decl.AmendedThroughout`: two trees of one shape, amended at every position.
* `Context.amended_settle`: a declaration settles amended.
* `Settles.amendedThroughout`: so does a tree, once the containers are taken away.
-/

namespace NativeApi

variable {default : CallingConvention} {L N : Library}

/-! ## Amendments -/

/-- One list of diagnostics becomes another: the new entries follow the old ones, and none of them
was there before or comes twice. -/
def Diagnostics.GrowsTo (ds ds' : Diagnostics) : Prop :=
  ∃ new : Diagnostics, ds' = ds ++ new ∧ new.Nodup ∧ ds.Disjoint new

/-- What a kind may become, whatever happens to the children. -/
inductive Kind.Amended : Kind Decl → Kind Decl → Prop
  | kept (k : Kind Decl) (children : List Decl) : Amended k (k.withChildren children)
  /-- An enum changes its form. -/
  | reformed (e : Enumeration Decl) (isLoose : Bool) (constants : List Decl) :
      Amended (.enumeration e) (.enumeration { e with isLoose, constants })
  /-- A parameter loses its default. -/
  | withoutDefault (type : TypeRef) (value : Option Constant) :
      Amended (.parameter type value) (.parameter type none)
  /-- A record loses some of its handles. -/
  | cleared {r r' : Record Decl} : r'.size = r.size → r'.alignment = r.alignment →
      r'.unsupported = r.unsupported →
      (∀ slot, r'.handle slot = r.handle slot ∨ r'.handle slot = none) →
      Amended (.record r) (.record r')

/-- What the name and the metadata of a declaration may become. -/
inductive Decl.Relabeled (d : Decl) : String → Metadata → Prop
  | kept : Relabeled d d.name d.metadata
  /-- A virtual function loses the marker for the platform error code. -/
  | unmarked {f : Callable Decl} : d.kind = .function f → f.isVirtual = true →
      Relabeled d d.name (d.metadata.erase .setLastError)
  /-- A field gets another name and keeps the old one in its metadata. -/
  | renamed (k : Nat) : d.kind.form.IsField →
      Relabeled d (underscored d.name (k + 1)) (d.metadata.insert (.formerName d.name))

/-- A declaration is another one with nothing but the amendments that verification may make. -/
structure Decl.Amended (d d' : Decl) : Prop where
  id : d'.id = d.id
  scope : d'.scope = d.scope
  file : d'.file = d.file
  accessibility : d'.accessibility = d.accessibility ∨ d'.accessibility = .internalAccess
  labels : d.Relabeled d'.name d'.metadata
  kind : d.kind.Amended d'.kind
  diagnostics : d.diagnostics.GrowsTo d'.diagnostics

/-- Two trees of one shape, with a declaration and what it was amended to at every position. -/
abbrev Decl.AmendedThroughout : Decl → Decl → Prop := Throughout Amended

/-! ## Diagnostics -/

namespace Diagnostics.GrowsTo

variable {ds ds' ds'' : Diagnostics}

theorem refl (ds : Diagnostics) : ds.GrowsTo ds :=
  ⟨[], (List.append_nil ds).symm, List.nodup_nil, List.disjoint_nil_right ds⟩

theorem trans (h : ds.GrowsTo ds') (h' : ds'.GrowsTo ds'') : ds.GrowsTo ds'' := by
  obtain ⟨new, rfl, hnew, hold⟩ := h
  obtain ⟨newer, rfl, hnewer, hboth⟩ := h'
  obtain ⟨hold', hnew'⟩ := List.disjoint_append_left.mp hboth
  refine ⟨new ++ newer, List.append_assoc ds new newer, ?_, ?_⟩
  · exact List.nodup_append'.mpr ⟨hnew, hnewer, hnew'⟩
  · exact List.disjoint_append_right.mpr ⟨hold, hold'⟩

theorem append {x : Diagnostic} (h : x ∉ ds) : ds.GrowsTo (ds ++ [x]) :=
  ⟨[x], rfl, List.nodup_singleton x, List.disjoint_singleton.mpr h⟩

theorem attach (ds : Diagnostics) (issue : Issue) : ds.GrowsTo (issue.attach ds) := by
  unfold Issue.attach ensureAnyError ensure
  split
  · split
    · exact refl ds
    · next hclean => exact append fun hmem => hclean (hasErrors_iff.mpr ⟨_, hmem, rfl⟩)
  · split
    · exact refl ds
    · next hnew => exact append hnew

theorem attachAll (ds : Diagnostics) (issues : List Issue) :
    ds.GrowsTo (Issue.attachAll ds issues) := by
  induction issues generalizing ds with
  | nil => exact refl ds
  | cons issue issues ih => exact (attach ds issue).trans (ih (issue.attach ds))

end Diagnostics.GrowsTo

/-! ## Settled declarations -/

theorem settledHandle_eq_or (members : List Decl) (handle : Option DeclId) (slot : Slot) :
    settledHandle members handle slot = handle ∨ settledHandle members handle slot = none := by
  cases hsettled : settledHandle members handle slot with
  | none => exact .inr rfl
  | some id => exact .inl (settledHandle_eq_some_iff.mp hsettled).1.symm

namespace Context

variable (ctx : Context) (d : Decl) (children : List Decl)

theorem repairedDefault_eq_or (type : TypeRef) (value : Option Constant) :
    ctx.repairedDefault type value = value ∨ ctx.repairedDefault type value = none := by
  unfold repairedDefault
  split
  · split
    · exact .inl rfl
    · exact .inr rfl
  · split
    · exact .inl rfl
    · exact .inr rfl
  · exact .inr rfl
  · exact .inr rfl
  · exact .inl rfl

theorem amended_repairedKind (k : Kind Decl) (inner : List Decl) :
    k.Amended ((ctx.repairedKind
      ((k.mapHandles (settledHandle k.children)).withChildren children)).withChildren inner) := by
  cases k with
  | record r =>
    refine .cleared rfl rfl rfl fun slot => ?_
    cases slot <;> exact settledHandle_eq_or r.members _ _
  | enumeration e => exact .reformed e _ inner
  | parameter type value =>
    show Kind.Amended _ (.parameter type (ctx.repairedDefault type value))
    rcases ctx.repairedDefault_eq_or type value with hvalue | hvalue <;> rw [hvalue]
    · exact .kept (.parameter type value) inner
    · exact .withoutDefault type value
  | _ => exact .kept _ inner

theorem repairedLabels_withSettled :
    ctx.repairedName (d.withSettled children) = ctx.repairedName d ∧
      ctx.repairedMetadata (d.withSettled children) = ctx.repairedMetadata d := by
  obtain ⟨id, name, scope, accessibility, file, diagnostics, metadata, kind⟩ := d
  cases kind <;> exact ⟨rfl, rfl⟩

theorem relabeled_repair : d.Relabeled (ctx.repairedName d) (ctx.repairedMetadata d) := by
  unfold repairedName repairedMetadata
  cases hnew : ctx.newName? d with
  | some new =>
    have hfield : d.kind.form.IsField := by
      by_contra hnot
      rw [newName?_of_not_isField hnot] at hnew
      exact absurd hnew nofun
    rw [newName?_of_isField hfield] at hnew
    obtain ⟨parent, k, _, hname, rfl, _⟩ := disambiguatedName?_spec hnew
    rw [← hname]
    exact .renamed k hfield
  | none =>
    dsimp only
    split
    · next f hkind =>
      split
      · next hloses => exact .unmarked hkind (Bool.and_eq_true_iff.mp hloses).1
      · exact .kept
    · exact .kept

/-- **A declaration settles amended.** -/
theorem amended_settle (inner : List Decl) :
    d.Amended { ctx.settle default N (d.withSettled children) with
      kind := (ctx.settle default N (d.withSettled children)).kind.withChildren inner } where
  id := rfl
  scope := rfl
  file := rfl
  accessibility := by
    show ctx.repairedAccessibility d = d.accessibility ∨
      ctx.repairedAccessibility d = .internalAccess
    unfold repairedAccessibility
    split
    · exact .inr rfl
    · exact .inl rfl
  labels := by
    obtain ⟨hname, hmetadata⟩ := ctx.repairedLabels_withSettled d children
    show d.Relabeled (ctx.repairedName (d.withSettled children))
      (ctx.repairedMetadata (d.withSettled children))
    rw [hname, hmetadata]
    exact ctx.relabeled_repair d
  kind := ctx.amended_repairedKind children d.kind inner
  diagnostics := by
    show d.diagnostics.GrowsTo (ctx.settle default N (d.withSettled children)).diagnostics
    rw [diagnostics_settle]
    exact .attachAll _ _

end Context

/-! ## Trees without containers -/

/-- A tree in which the only child of a declaration with an id from `first` on takes the place of
that declaration. -/
def Decl.unwrap (first : DeclId) (d : Decl) : Decl :=
  let inner := d.children.attach.map fun ⟨c, _⟩ => c.unwrap first
  match inner with
  | [child] => if first ≤ d.id then child else { d with kind := d.kind.withChildren inner }
  | _ => { d with kind := d.kind.withChildren inner }
termination_by sizeOf d
decreasing_by exact sizeOf_lt_of_mem_children ‹_›

/-- A library without the containers that have ids from `first` on. -/
def Library.unwrap (first : DeclId) (L : Library) : Library :=
  L.withRoots (L.roots.map (Decl.unwrap first))

namespace Decl

variable {first id : DeclId}

theorem unwrap_of_lt {d : Decl} (h : d.id < first) : d.unwrap first
    = { d with kind := d.kind.withChildren (d.children.map (unwrap first)) } := by
  have hinner : (d.children.attach.map fun c => c.1.unwrap first) = d.children.map (unwrap first) :=
    List.attach_map_val ..
  rw [unwrap]
  dsimp only
  rw [hinner]
  split
  · rw [if_neg (Nat.not_le_of_lt h)]
  · rfl

theorem children_unwrap_of_lt {d : Decl} (h : d.id < first) :
    (d.unwrap first).children = d.children.map (unwrap first) := by
  rw [unwrap_of_lt h]
  refine Kind.children_withChildren fun hnil => ?_
  rw [children, hnil]
  rfl

theorem unwrap_enumContainer (d : Decl) (h : first ≤ id) :
    (enumContainer id d).unwrap first = d.unwrap first := by
  rw [unwrap]
  exact if_pos h

end Decl

/-- Without its container a part is what its original settled into. -/
theorem SettledPart.unwrap_result {first : DeclId} {p : SettledPart}
    (h : ∀ id, p.container? = some id → first ≤ id) :
    p.result.unwrap first = p.settled.unwrap first := by
  cases hcontainer : p.container? with
  | none => rw [result_of_none hcontainer]
  | some id =>
    rw [result_of_some hcontainer]
    exact Decl.unwrap_enumContainer p.settled (h id hcontainer)

theorem SettledAll.amendedThroughout {above ds : List Decl} {parts : List SettledPart}
    (h : SettledAll default L N above ds parts)
    (hparts : ∀ p ∈ parts, p.original.AmendedThroughout (p.settled.unwrap L.nextId)) :
    List.Forall₂ Decl.AmendedThroughout ds
      ((parts.map SettledPart.result).map (Decl.unwrap L.nextId)) := by
  rw [← h.originals, List.map_map, List.forall₂_map_left_iff, List.forall₂_map_right_iff,
    List.forall₂_same]
  intro p hp
  show p.original.AmendedThroughout (p.result.unwrap L.nextId)
  rw [p.unwrap_result (h.fresh p hp)]
  exact hparts p hp

/-- **Without the containers a tree settles amended throughout.** -/
theorem Settles.amendedThroughout {above : List Decl} {d d' : Decl}
    (h : Settles default L N above d d') (hbelow : ∀ e ∈ d.subtree, e.id < L.nextId) :
    d.AmendedThroughout (d'.unwrap L.nextId) := by
  induction h with
  | @node above d parts horig hsettle hwrap hfresh ih =>
    have hall : SettledAll default L N (d :: above) d.children parts :=
      ⟨horig, hsettle, hwrap, hfresh⟩
    -- the declaration itself is no container, since its id was in use
    have hid : ((Context.mk L above).settle default N
        (d.withSettled (parts.map SettledPart.result))).id < L.nextId :=
      hbelow d (Decl.mem_subtree.mpr (.inl rfl))
    refine .node ?_ ?_
    · rw [Decl.unwrap_of_lt hid]
      exact Context.amended_settle _ _ _ _
    · rw [Decl.children_unwrap_of_lt hid, hall.children_settle]
      refine hall.amendedThroughout fun p hp => ih p hp fun e he => ?_
      have hchild : p.original ∈ d.children := horig ▸ List.mem_map_of_mem hp
      exact hbelow e (Decl.mem_subtree.mpr (.inr ⟨p.original, hchild, he⟩))

/-! ## The verified library -/

/-- A declaration with an id that was unused is the container of an enum. -/
theorem eq_enumContainer_of_nextId_le (h : L.TreeIdsSound) {d : Decl}
    (hd : d ∈ (verify default L).decls) (hid : L.nextId ≤ d.id) :
    ∃ e, d = enumContainer d.id e ∧ e.kind.form = .enumeration := by
  obtain ⟨v', hv', rfl⟩ := Library.mem_decls_iff.mp hd
  obtain ⟨v, hv, hcounter | henclosure⟩ := mem_visits_verify default L v' hv'
  · have hold : v.decl.id ∈ L.ids :=
      Library.mem_ids_iff.mpr ⟨v.decl, Library.mem_decls_iff.mpr ⟨v, hv, rfl⟩, rfl⟩
    have hlt : v.decl.id < L.nextId := h.below v.decl.id hold
    rw [hcounter.continues.id] at hid
    exact absurd hid (Nat.not_le_of_lt hlt)
  · cases henclosure with
    | @intro above above' ds parts part id hs hpart hsome =>
      have hneeds : (Context.mk L above).needsContainer part.original = true := by
        rw [← hs.settled.wraps part hpart, hsome]
        rfl
      refine ⟨part.settled, rfl, ?_⟩
      rw [(hs.settled.settles part hpart).continues.form]
      exact Context.form_of_needsContainer hneeds

theorem amendedThroughout_verify (h : L.TreeIdsSound) (default : CallingConvention) :
    List.Forall₂ Decl.AmendedThroughout L.roots ((verify default L).unwrap L.nextId).roots := by
  obtain ⟨parts, hparts, hroots⟩ := verify_settles default L
  show List.Forall₂ _ L.roots ((verify default L).roots.map (Decl.unwrap L.nextId))
  rw [hroots]
  refine hparts.amendedThroughout fun p hp => (hparts.settles p hp).amendedThroughout ?_
  intro e he
  have hroot : p.original ∈ L.roots := hparts.originals ▸ List.mem_map_of_mem hp
  exact h.below e.id (Library.mem_ids_iff.mpr ⟨e, List.mem_flatMap.mpr ⟨_, hroot, he⟩, rfl⟩)

/-- **What verification changes.**  The declarations with ids that were unused are the containers
of enums.  Without them there is a declaration at the same positions as before, and it is the one
that was there, amended.  The files and the broken declarations stay. -/
theorem verify_amends (default : CallingConvention) (L : Library) (h : L.TreeIdsSound) :
    (∀ d ∈ (verify default L).decls, L.nextId ≤ d.id →
      ∃ e, d = enumContainer d.id e ∧ e.kind.form = .enumeration) ∧
    (∀ path, Option.Rel Decl.Amended (L.declAt? path)
      (((verify default L).unwrap L.nextId).declAt? path)) ∧
    (verify default L).files = L.files ∧ (verify default L).broken = L.broken ∧
    L.nextId ≤ (verify default L).nextId := by
  refine ⟨?_, ?_, ?_, ?_, ?_⟩
  · intro d hd hid
    exact eq_enumContainer_of_nextId_le h hd hid
  · exact Decl.rel_declBelow? (amendedThroughout_verify h default)
  · rw [verify_eq]
    rfl
  · rw [verify_eq]
    rfl
  · rw [verify_eq]
    exact Nat.le_trans (Nat.le_max_right _ _) (Nat.le_max_right _ _)

/-- The enum of the sample gets a container.  Without it the enum is where it was. -/
theorem verify_amends_sample : Sample.library.TreeIdsSound ∧
    ((verify .c Sample.library).declAt? [0]).map (fun d => d.kind.form)
      = some (.container .looseDeclarations) ∧
    ∃ d d', Sample.library.declAt? [0] = some d ∧
      ((verify .c Sample.library).unwrap Sample.library.nextId).declAt? [0] = some d' ∧
      d'.kind.form = .enumeration ∧ d.Amended d' := by
  have h : Sample.library.TreeIdsSound := ⟨by decide +kernel, by decide +kernel⟩
  have hform : (((verify .c Sample.library).unwrap Sample.library.nextId).declAt? [0]).map
      (fun d => d.kind.form) = some .enumeration := by decide +kernel
  obtain ⟨_, hpositions, _⟩ := verify_amends .c Sample.library h
  refine ⟨h, by decide +kernel, ?_⟩
  have hposition := hpositions [0]
  obtain ⟨d', hd', henumeration⟩ := Option.map_eq_some_iff.mp hform
  rw [hd'] at hposition ⊢
  generalize hd : Sample.library.declAt? [0] = before at hposition
  cases hposition with
  | some hamended => exact ⟨_, d', rfl, rfl, henumeration, hamended⟩

end NativeApi

import NativeApi.Proofs.Verify.Settling

/-!
# Places in the verified library

Every place in the verified library comes from a place in the library before.

* `Counterpart`: a declaration in its place before, and what it settled into in its place after;
  either in the settled parent, or in a container of its own.
* `Enclosure`: a declaration in its place before, and the container in that place after.
* `mem_visits_verify`: there is nothing else in the verified library.
* `exists_counterpart`: no place is lost.
* `Counterpart.parent_cases`: what is directly around a declaration, before and after.
* `Counterpart.precedes`: the place of a declaration keeps what the rules for it look at.
-/

namespace NativeApi

variable {default : CallingConvention} {L N : Library}

/-- The siblings `ds` below `above` settle into `parts`, which stand below `above'`: at the root,
or in the settled parent. -/
structure Siblings (default : CallingConvention) (L N : Library) (above above' : List Decl)
    (ds : List Decl) (parts : List SettledPart) : Prop where
  settled : SettledAll default L N above ds parts
  parent : (above = [] ∧ above' = []) ∨ ∃ p rest rest', above = p :: rest ∧ ds = p.children ∧
    above' = (Context.mk L rest).settle default N
      (p.withSettled (parts.map SettledPart.result)) :: rest'

/-- A declaration in its place, and what it settled into in its place. -/
inductive Counterpart (default : CallingConvention) (L N : Library) : Visit → Visit → Prop
  | kept {above above' : List Decl} {ds : List Decl} {parts : List SettledPart}
      {part : SettledPart} : Siblings default L N above above' ds parts → part ∈ parts →
      part.container? = none →
      Counterpart default L N ⟨above, part.original⟩ ⟨above', part.settled⟩
  | wrapped {above above' : List Decl} {ds : List Decl} {parts : List SettledPart}
      {part : SettledPart} {id : DeclId} : Siblings default L N above above' ds parts →
      part ∈ parts → part.container? = some id →
      Counterpart default L N ⟨above, part.original⟩
        ⟨enumContainer id part.settled :: above', part.settled⟩

/-- A declaration in its place, and the container that was put around it there. -/
inductive Enclosure (default : CallingConvention) (L N : Library) : Visit → Visit → Prop
  | intro {above above' : List Decl} {ds : List Decl} {parts : List SettledPart}
      {part : SettledPart} {id : DeclId} : Siblings default L N above above' ds parts →
      part ∈ parts → part.container? = some id →
      Enclosure default L N ⟨above, part.original⟩ ⟨above', enumContainer id part.settled⟩

theorem Enclosure.form {v v' : Visit} (h : Enclosure default L N v v') :
    v'.decl.kind.form = .container .looseDeclarations := by
  cases h
  rfl

theorem SettledAll.siblings {above above' : List Decl} {d : Decl} {parts : List SettledPart}
    (h : SettledAll default L N (d :: above) d.children parts) :
    Siblings default L N (d :: above) ((Context.mk L above).settle default N
      (d.withSettled (parts.map SettledPart.result)) :: above') d.children parts :=
  ⟨h, .inr ⟨d, above, above', rfl, rfl, rfl⟩⟩

theorem SettledAll.children_withSettled {above : List Decl} {d : Decl} {parts : List SettledPart}
    (h : SettledAll default L N above d.children parts) :
    (d.withSettled (parts.map SettledPart.result)).children = parts.map SettledPart.result := by
  refine Decl.children_withSettled fun hnil => ?_
  have horig := h.originals
  rw [hnil, List.map_eq_nil_iff] at horig
  rw [horig]
  rfl

/-- The children of a settled declaration are what its children settled into. -/
theorem SettledAll.children_settle {above : List Decl} {d : Decl} {parts : List SettledPart}
    (h : SettledAll default L N (d :: above) d.children parts) :
    ((Context.mk L above).settle default N
      (d.withSettled (parts.map SettledPart.result))).children
      = parts.map SettledPart.result := by
  rw [Context.children_settle, h.children_withSettled]

theorem SettledAll.forall₂_continues {above : List Decl} {d : Decl} {parts : List SettledPart}
    (h : SettledAll default L N (d :: above) d.children parts) (hform : d.kind.form = .record) :
    List.Forall₂ Decl.Continues d.children (parts.map SettledPart.result) :=
  SettledPart.forall₂_continues ⟨L, above⟩ h.originals h.wraps
    (fun p hp => (h.settles p hp).continues) hform

theorem Settles.forall₂_continues {above : List Decl} {d d' : Decl}
    (h : Settles default L N above d d') (hform : d.kind.form = .record) :
    List.Forall₂ Decl.Continues d.children d'.children := by
  obtain ⟨parts, hparts, rfl⟩ := h.exists_parts
  rw [hparts.children_settle]
  exact hparts.forall₂_continues hform

/-! ## Settled parents -/

section

variable {ctx : Context} {p : Decl} {children : List Decl}

/-- Only fields are renamed, and they contain nothing. -/
theorem Context.name_settle (h : p.children ≠ []) :
    (ctx.settle default N (p.withSettled children)).name = p.name := by
  obtain ⟨id, name, scope, accessibility, file, diagnostics, metadata, kind⟩ := p
  cases kind with
  | field offset content => exact absurd rfl h
  | staticField mangledName type => exact absurd rfl h
  | _ => rfl

theorem Context.continues_withSettled_settle :
    p.Continues (ctx.settle default N (p.withSettled children)) :=
  (p.continues_withSettled children).trans (ctx.continues_settle default N _)

/-- What a settled parent designates. -/
theorem Context.record?_settle (slot : Slot) :
    (ctx.settle default N (p.withSettled children)).record?.bind (Record.handle · slot)
      = p.record?.bind fun r => settledHandle p.children (r.handle slot) slot := by
  obtain ⟨id, name, scope, accessibility, file, diagnostics, metadata, kind⟩ := p
  cases kind with
  | record r => cases slot <;> rfl
  | _ => rfl

end

namespace Siblings

variable {above above' ds : List Decl} {parts : List SettledPart} {part : SettledPart}

theorem original_mem (h : Siblings default L N above above' ds parts) (hpart : part ∈ parts) :
    part.original ∈ ds := h.settled.originals ▸ List.mem_map_of_mem hpart

/-- The direct parent, before and after. -/
theorem parent_cases (h : Siblings default L N above above' ds parts) (hpart : part ∈ parts) :
    (above = [] ∧ above' = []) ∨ ∃ p rest p' rest', above = p :: rest ∧ above' = p' :: rest' ∧
      part.original ∈ p.children ∧ p.Continues p' ∧ p'.name = p.name ∧
      ∀ slot, p'.record?.bind (Record.handle · slot)
        = p.record?.bind fun r => settledHandle p.children (r.handle slot) slot := by
  rcases h.parent with hroot | ⟨p, rest, rest', habove, hds, habove'⟩
  · exact .inl hroot
  · have hmem : part.original ∈ p.children := hds ▸ h.original_mem hpart
    exact .inr ⟨p, rest, _, rest', habove, habove', hmem, Context.continues_withSettled_settle,
      Context.name_settle (List.ne_nil_of_mem hmem), Context.record?_settle⟩

end Siblings

theorem Context.designates_iff {ctx : Context} {slot : Slot} {id : DeclId} :
    ctx.designates slot id = true ↔
      ∃ p, ctx.parent? = some p ∧ p.record?.bind (Record.handle · slot) = some id := by
  unfold designates
  cases ctx.parent? with
  | none => simp
  | some p => cases hrecord : p.record? <;> simp [hrecord]

/-! ## From after to before -/

/-- The places in the result of a part, given the places in what the part settled into. -/
theorem Siblings.mem_visits_result {above above' ds : List Decl} {parts : List SettledPart}
    {part : SettledPart} (h : Siblings default L N above above' ds parts) (hpart : part ∈ parts)
    (ih : ∀ above'', Counterpart default L N ⟨above, part.original⟩ ⟨above'', part.settled⟩ →
      ∀ v' ∈ part.settled.visits above'', ∃ v ∈ part.original.visits above,
        Counterpart default L N v v' ∨ Enclosure default L N v v') :
    ∀ v' ∈ part.result.visits above', ∃ v ∈ part.original.visits above,
      Counterpart default L N v v' ∨ Enclosure default L N v v' := by
  intro v' hv'
  cases hcontainer : part.container? with
  | none =>
    rw [SettledPart.result_of_none hcontainer] at hv'
    exact ih above' (.kept h hpart hcontainer) v' hv'
  | some id =>
    rw [SettledPart.result_of_some hcontainer, Decl.mem_visits] at hv'
    rcases hv' with rfl | ⟨c, hc, hv'⟩
    · exact ⟨⟨above, part.original⟩, Decl.mem_visits.mpr (.inl rfl),
        .inr (.intro h hpart hcontainer)⟩
    · obtain rfl : c = part.settled := List.mem_singleton.mp hc
      exact ih _ (.wrapped h hpart hcontainer) v' hv'

theorem Settles.mem_visits {above : List Decl} {d d' : Decl}
    (h : Settles default L N above d d') {above' : List Decl}
    (hd : Counterpart default L N ⟨above, d⟩ ⟨above', d'⟩) :
    ∀ v' ∈ d'.visits above', ∃ v ∈ d.visits above,
      Counterpart default L N v v' ∨ Enclosure default L N v v' := by
  induction h generalizing above' with
  | @node above d parts horig hsettle hwrap hfresh ih =>
    have hall : SettledAll default L N (d :: above) d.children parts :=
      ⟨horig, hsettle, hwrap, hfresh⟩
    intro v' hv'
    rcases Decl.mem_visits.mp hv' with rfl | ⟨c', hc', hv'⟩
    · exact ⟨⟨above, d⟩, Decl.mem_visits.mpr (.inl rfl), .inl hd⟩
    · rw [hall.children_settle] at hc'
      obtain ⟨part, hpart, rfl⟩ := List.mem_map.mp hc'
      obtain ⟨v, hv, hor⟩ := hall.siblings.mem_visits_result hpart
        (fun above'' hcounter => ih part hpart hcounter) v' hv'
      have hchild : part.original ∈ d.children := horig ▸ List.mem_map_of_mem hpart
      exact ⟨v, Decl.mem_visits.mpr (.inr ⟨part.original, hchild, hv⟩), hor⟩

/-- **Nothing comes from nowhere.** -/
theorem mem_visits_verify (default : CallingConvention) (L : Library) :
    ∀ v' ∈ (verify default L).visits, ∃ v ∈ L.visits,
      Counterpart default L (verify default L) v v' ∨
        Enclosure default L (verify default L) v v' := by
  obtain ⟨parts, hparts, hroots⟩ := verify_settles default L
  have hsiblings : Siblings default L (verify default L) [] [] L.roots parts :=
    ⟨hparts, .inl ⟨rfl, rfl⟩⟩
  intro v' hv'
  rw [Library.visits, Library.visitsOf, hroots, List.mem_flatMap] at hv'
  obtain ⟨d', hd', hv'⟩ := hv'
  obtain ⟨part, hpart, rfl⟩ := List.mem_map.mp hd'
  obtain ⟨v, hv, hor⟩ := hsiblings.mem_visits_result hpart
    (fun _ hcounter => (hparts.settles part hpart).mem_visits hcounter) v' hv'
  have hroot : part.original ∈ L.roots := hparts.originals ▸ List.mem_map_of_mem hpart
  exact ⟨v, List.mem_flatMap.mpr ⟨part.original, hroot, hv⟩, hor⟩

/-! ## From before to after -/

theorem Siblings.exists_visit_result {above above' ds : List Decl} {parts : List SettledPart}
    {part : SettledPart} (h : Siblings default L N above above' ds parts) (hpart : part ∈ parts)
    (ih : ∀ above'', Counterpart default L N ⟨above, part.original⟩ ⟨above'', part.settled⟩ →
      ∀ v ∈ part.original.visits above, ∃ v' ∈ part.settled.visits above'',
        Counterpart default L N v v') :
    ∀ v ∈ part.original.visits above, ∃ v' ∈ part.result.visits above',
      Counterpart default L N v v' := by
  intro v hv
  cases hcontainer : part.container? with
  | none =>
    rw [SettledPart.result_of_none hcontainer]
    exact ih above' (.kept h hpart hcontainer) v hv
  | some id =>
    rw [SettledPart.result_of_some hcontainer]
    obtain ⟨v', hv', hcounter⟩ := ih _ (.wrapped h hpart hcontainer) v hv
    exact ⟨v', Decl.mem_visits.mpr (.inr ⟨part.settled, List.mem_singleton_self _, hv'⟩), hcounter⟩

theorem Settles.exists_visit {above : List Decl} {d d' : Decl}
    (h : Settles default L N above d d') {above' : List Decl}
    (hd : Counterpart default L N ⟨above, d⟩ ⟨above', d'⟩) :
    ∀ v ∈ d.visits above, ∃ v' ∈ d'.visits above', Counterpart default L N v v' := by
  induction h generalizing above' with
  | @node above d parts horig hsettle hwrap hfresh ih =>
    have hall : SettledAll default L N (d :: above) d.children parts :=
      ⟨horig, hsettle, hwrap, hfresh⟩
    intro v hv
    rcases Decl.mem_visits.mp hv with rfl | ⟨c, hc, hv⟩
    · exact ⟨_, Decl.mem_visits.mpr (.inl rfl), hd⟩
    · rw [← horig] at hc
      obtain ⟨part, hpart, rfl⟩ := List.mem_map.mp hc
      obtain ⟨v', hv', hcounter⟩ := hall.siblings.exists_visit_result hpart
        (fun above'' hcounter => ih part hpart hcounter) v hv
      have hchild : part.result ∈ ((Context.mk L above).settle default N
          (d.withSettled (parts.map SettledPart.result))).children := by
        rw [hall.children_settle]
        exact List.mem_map_of_mem hpart
      exact ⟨v', Decl.mem_visits.mpr (.inr ⟨part.result, hchild, hv'⟩), hcounter⟩

/-- **No place is lost.** -/
theorem exists_counterpart (default : CallingConvention) (L : Library) :
    ∀ v ∈ L.visits, ∃ v' ∈ (verify default L).visits,
      Counterpart default L (verify default L) v v' := by
  obtain ⟨parts, hparts, hroots⟩ := verify_settles default L
  have hsiblings : Siblings default L (verify default L) [] [] L.roots parts :=
    ⟨hparts, .inl ⟨rfl, rfl⟩⟩
  intro v hv
  obtain ⟨d, hd, hv⟩ := List.mem_flatMap.mp hv
  rw [← hparts.originals] at hd
  obtain ⟨part, hpart, rfl⟩ := List.mem_map.mp hd
  obtain ⟨v', hv', hcounter⟩ := hsiblings.exists_visit_result hpart
    (fun _ hcounter => (hparts.settles part hpart).exists_visit hcounter) v hv
  have hroot : part.result ∈ (verify default L).roots := by
    rw [hroots]
    exact List.mem_map_of_mem hpart
  exact ⟨v', List.mem_flatMap.mpr ⟨part.result, hroot, hv'⟩, hcounter⟩

/-! ## Counterparts -/

namespace Counterpart

variable {v v' : Visit}

theorem settles (h : Counterpart default L N v v') :
    Settles default L N v.above v.decl v'.decl := by
  cases h with
  | kept hs hpart _ => exact hs.settled.settles _ hpart
  | wrapped hs hpart _ => exact hs.settled.settles _ hpart

theorem continues (h : Counterpart default L N v v') : v.decl.Continues v'.decl :=
  h.settles.continues

end Counterpart

/-! ## What a place keeps -/

theorem Context.needsContainer_of_form_ne {ctx : Context} {d : Decl}
    (h : d.kind.form ≠ .enumeration) : ctx.needsContainer d = false := by
  unfold needsContainer
  split
  · next e he => exact absurd (by rw [he]; rfl) h
  · rfl

theorem Context.form_of_needsContainer {ctx : Context} {d : Decl}
    (h : ctx.needsContainer d = true) : d.kind.form = .enumeration := by
  by_contra hne
  rw [needsContainer_of_form_ne hne] at h
  exact absurd h (by decide)

namespace Counterpart

variable {v v' : Visit}

theorem parent_cases (h : Counterpart default L N v v') :
    ((Context.mk L v.above).needsContainer v.decl = false ∧ v.above = [] ∧ v'.above = []) ∨
    ((Context.mk L v.above).needsContainer v.decl = false ∧ ∃ p rest p' rest',
      v.above = p :: rest ∧ v'.above = p' :: rest' ∧ v.decl ∈ p.children ∧ p.Continues p' ∧
      p'.name = p.name ∧ ∀ slot, p'.record?.bind (Record.handle · slot)
        = p.record?.bind fun r => settledHandle p.children (r.handle slot) slot) ∨
    ((Context.mk L v.above).needsContainer v.decl = true ∧ ∃ id rest',
      v'.above = enumContainer id v'.decl :: rest') := by
  cases h with
  | @kept above above' ds parts part hs hpart hnone =>
    have hneeds : (Context.mk L above).needsContainer part.original = false := by
      rw [← hs.settled.wraps part hpart, hnone]
      rfl
    rcases hs.parent_cases hpart with hroot | hparent
    · exact .inl ⟨hneeds, hroot⟩
    · exact .inr (.inl ⟨hneeds, hparent⟩)
  | @wrapped above above' ds parts part id hs hpart hsome =>
    have hneeds : (Context.mk L above).needsContainer part.original = true := by
      rw [← hs.settled.wraps part hpart, hsome]
      rfl
    exact .inr (.inr ⟨hneeds, id, above', rfl⟩)

theorem isRoot {M : Library} (h : Counterpart default L N v v')
    (hroot : (Context.mk M v'.above).isRoot = true) : (Context.mk L v.above).isRoot = true := by
  rcases h.parent_cases with ⟨_, habove, _⟩ | ⟨_, _, _, _, _, _, habove', _⟩ | ⟨_, _, _, habove'⟩
  · rw [habove]
    rfl
  · rw [habove'] at hroot
    exact absurd hroot Bool.false_ne_true
  · rw [habove'] at hroot
    exact absurd hroot Bool.false_ne_true

/-- A container hosts the enum for which it was made. -/
theorem hostsMembers {M : Library} (h : Counterpart default L N v v') :
    (Context.mk M v'.above).hostsMembers = ((Context.mk L v.above).hostsMembers
      || (Context.mk L v.above).needsContainer v.decl) := by
  rcases h.parent_cases with ⟨hneeds, habove, habove'⟩ |
    ⟨hneeds, p, rest, p', rest', habove, habove', _, hcont, _⟩ | ⟨hneeds, id, rest', habove'⟩
  · rw [hneeds, habove, habove']
    rfl
  · rw [hneeds, habove, habove', Bool.or_false]
    show p'.kind.hostsMembers = p.kind.hostsMembers
    rw [Kind.hostsMembers_eq, Kind.hostsMembers_eq, hcont.form]
  · rw [hneeds, habove', Bool.or_true]
    rfl

theorem parent_of_not_wrapped (h : Counterpart default L N v v')
    (hneeds : (Context.mk L v.above).needsContainer v.decl = false) :
    v'.parent?.map (fun p => (p.id, p.kind.form, p.name))
      = v.parent?.map fun p => (p.id, p.kind.form, p.name) := by
  unfold Visit.parent?
  rcases h.parent_cases with ⟨_, habove, habove'⟩ |
    ⟨_, p, rest, p', rest', habove, habove', _, hcont, hname, _⟩ | ⟨hwrapped, _⟩
  · rw [habove, habove']
  · rw [habove, habove', List.head?_cons, List.head?_cons, Option.map_some, Option.map_some,
      hcont.id, hcont.form, hname]
  · rw [hneeds] at hwrapped
    exact absurd hwrapped Bool.false_ne_true

theorem parentForm (h : Counterpart default L N v v')
    (hneeds : (Context.mk L v.above).needsContainer v.decl = false) :
    v'.parent?.map (fun p => p.kind.form) = v.parent?.map fun p => p.kind.form := by
  have := congrArg (Option.map fun seen => seen.2.1) (h.parent_of_not_wrapped hneeds)
  rwa [Option.map_map, Option.map_map] at this

theorem parentName (h : Counterpart default L N v v')
    (hneeds : (Context.mk L v.above).needsContainer v.decl = false) :
    v'.parent?.map Decl.name = v.parent?.map Decl.name := by
  have := congrArg (Option.map fun seen => seen.2.2) (h.parent_of_not_wrapped hneeds)
  rwa [Option.map_map, Option.map_map] at this

end Counterpart

/-- A second place of a declaration asks for no more than the first one did. -/
structure Context.Precedes (ctx ctx' : Context) (d : Decl) : Prop where
  isRoot : ctx'.isRoot = true → ctx.isRoot = true
  hosts : ctx'.hostsMembers = (ctx.hostsMembers || ctx.needsContainer d)
  parentForm : ctx.needsContainer d = false →
    ctx'.parent?.map (fun p => p.kind.form) = ctx.parent?.map fun p => p.kind.form
  parentName : ctx.needsContainer d = false →
    ctx'.parent?.map Decl.name = ctx.parent?.map Decl.name
  designates : ∀ slot, d.fills slot = true → ctx.designates slot d.id = true →
    ctx'.designates slot d.id = true

theorem Context.Precedes.hosts_of_form_ne {ctx ctx' : Context} {d : Decl}
    (h : ctx.Precedes ctx' d) (hform : d.kind.form ≠ .enumeration) :
    ctx'.hostsMembers = ctx.hostsMembers := by
  rw [h.hosts, needsContainer_of_form_ne hform, Bool.or_false]

/-- **The place of a declaration keeps what a check relies on.** -/
theorem Counterpart.precedes {M : Library} {v v' : Visit} (hcounter : Counterpart default L N v v')
    (hdistinct : L.SiblingIdsDistinct) (hv : v ∈ L.visits) :
    (Context.mk L v.above).Precedes (Context.mk M v'.above) v.decl := by
  refine ⟨hcounter.isRoot, hcounter.hostsMembers, hcounter.parentForm, hcounter.parentName, ?_⟩
  intro slot hfills hdesignates
  obtain ⟨q, hq, hhandle⟩ := Context.designates_iff.mp hdesignates
  rcases hcounter.parent_cases with ⟨_, habove, _⟩ |
    ⟨_, p, rest, p', rest', habove, habove', hmem, _, _, hhandles⟩ | ⟨hneeds, _⟩
  · rw [habove] at hq
    exact absurd hq nofun
  · rw [habove] at hq
    obtain rfl : p = q := Option.some.inj hq
    obtain ⟨r, hr, hhandle⟩ := Option.bind_eq_some_iff.mp hhandle
    refine Context.designates_iff.mpr ⟨p', by rw [habove']; rfl, ?_⟩
    have hp : p ∈ L.decls := Library.mem_decls_of_mem_above hv p (by
      rw [habove]
      exact List.mem_cons_self ..)
    rw [hhandles, hr]
    exact settledHandle_eq_self (hdistinct p hp) hmem hfills hhandle
  · -- an enum fills no slot
    rw [Decl.fills_iff, Context.form_of_needsContainer hneeds] at hfills
    cases slot <;> exact absurd hfills (by decide)

/-- The children of a settled declaration do not enter into what the second place has to keep. -/
theorem Context.Precedes.withSettled {ctx ctx' : Context} {d : Decl} (h : ctx.Precedes ctx' d)
    (children : List Decl) : ctx.Precedes ctx' (d.withSettled children) := by
  have hneeds := ctx.needsContainer_withSettled d children
  refine ⟨h.isRoot, ?_, ?_, ?_, ?_⟩
  · rw [hneeds]
    exact h.hosts
  · rw [hneeds]
    exact h.parentForm
  · rw [hneeds]
    exact h.parentName
  · intro slot hfills
    rw [(d.continues_withSettled children).fills] at hfills
    exact h.designates slot hfills

end NativeApi

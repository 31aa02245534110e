import NativeApi.Proofs.Verify.Recheck

/-!
# What the rules see of a place

The rules for a declaration look around, but not far either: they see the name, the form and the
handles of the declaration directly around, the ids and names of what is in there, and how the
library judges types.  In places that look the same a declaration is checked in the same way
(`Context.SeesAlike.issues`, `Context.SeesAlike.repair`), and what may differ between the
declarations themselves is what no rule looks at (`Decl.ReadsAlike`).
-/

namespace NativeApi

/-- Two declarations look the same to the rules for what is directly inside. -/
structure Decl.LooksAlike (p p' : Decl) : Prop where
  name : p'.name = p.name
  form : p'.kind.form = p.kind.form
  handles : ∀ slot, (p'.record?.bind fun r => r.handle slot)
    = p.record?.bind fun r => r.handle slot
  children : (p'.children.map fun c => (c.id, c.name)) = p.children.map fun c => (c.id, c.name)

theorem Decl.LooksAlike.refl (p : Decl) : p.LooksAlike p := ⟨rfl, rfl, fun _ => rfl, rfl⟩

/-- Two declarations differ in nothing that the rules for a declaration look at: in the diagnostics,
and in what cannot be seen of the children. -/
structure Decl.ReadsAlike (d d' : Decl) : Prop where
  rest : d' = { d with diagnostics := d'.diagnostics, kind := d.kind.withChildren d'.children }
  view : (d.kind.withChildren d'.children).view = d.kind.view

namespace Context

/-- Two places look the same to the rules. -/
structure SeesAlike (ctx ctx' : Context) : Prop where
  types : SameTypes ctx.library ctx'.library
  parent : Option.Rel Decl.LooksAlike ctx.parent? ctx'.parent?

theorem isRoot_eq (ctx : Context) : ctx.isRoot = ctx.parent?.isNone := by
  unfold isRoot parent?
  cases ctx.above <;> rfl

theorem designates_eq (ctx : Context) (slot : Slot) (id : DeclId) : ctx.designates slot id
    = decide ((ctx.parent?.bind fun p => p.record?.bind fun r => r.handle slot) = some id) := by
  unfold designates
  cases ctx.parent? with
  | none => rfl
  | some p =>
    rw [Option.bind_some, Option.bind_some]
    cases p.record? <;> rfl

theorem disambiguatedName?_eq (ctx : Context) (d : Decl) : ctx.disambiguatedName? d =
    ctx.parent?.bind fun p =>
      let siblings := p.children.map fun c => (c.id, c.name)
      if d.name = "" ∨ d.name ≠ p.name then none
      else
        let earlier := (siblings.takeWhile (·.1 ≠ d.id)).countP (·.2 = d.name)
        (freeNames d.name (siblings.map Prod.snd) (earlier + 1))[earlier]? := by
  unfold disambiguatedName?
  cases ctx.parent? with
  | none => rfl
  | some p =>
    simp only [Option.bind_some, List.takeWhile_map, List.countP_map, List.map_map,
      Function.comp_def]

namespace SeesAlike

variable {ctx ctx' : Context} (h : ctx.SeesAlike ctx')

include h

theorem parent_cases : (ctx.parent? = none ∧ ctx'.parent? = none) ∨
    ∃ p p', ctx.parent? = some p ∧ ctx'.parent? = some p' ∧ p.LooksAlike p' := by
  have hparent := h.parent
  generalize ctx.parent? = parent at hparent ⊢
  generalize ctx'.parent? = parent' at hparent ⊢
  cases hparent with
  | none => exact .inl ⟨rfl, rfl⟩
  | some hparent => exact .inr ⟨_, _, rfl, rfl, hparent⟩

theorem parentForm :
    ctx'.parent?.map (fun p => p.kind.form) = ctx.parent?.map fun p => p.kind.form := by
  rcases h.parent_cases with ⟨hp, hp'⟩ | ⟨p, p', hp, hp', halike⟩
  · rw [hp, hp']
  · rw [hp, hp', Option.map_some, Option.map_some, halike.form]

theorem isRoot : ctx'.isRoot = ctx.isRoot := by
  rw [isRoot_eq, isRoot_eq]
  rcases h.parent_cases with ⟨hp, hp'⟩ | ⟨p, p', hp, hp', _⟩
  · rw [hp, hp']
  · rw [hp, hp']
    rfl

theorem hostsMembers : ctx'.hostsMembers = ctx.hostsMembers := by
  unfold Context.hostsMembers
  rcases h.parent_cases with ⟨hp, hp'⟩ | ⟨p, p', hp, hp', halike⟩
  · rw [hp, hp']
  · rw [hp, hp']
    dsimp only
    rw [Kind.hostsMembers_eq, Kind.hostsMembers_eq, halike.form]

theorem designates (slot : Slot) (id : DeclId) :
    ctx'.designates slot id = ctx.designates slot id := by
  rw [designates_eq, designates_eq]
  rcases h.parent_cases with ⟨hp, hp'⟩ | ⟨p, p', hp, hp', halike⟩
  · rw [hp, hp']
  · rw [hp, hp', Option.bind_some, Option.bind_some, halike.handles]

theorem disambiguatedName? (d : Decl) :
    ctx'.disambiguatedName? d = ctx.disambiguatedName? d := by
  rw [disambiguatedName?_eq, disambiguatedName?_eq]
  rcases h.parent_cases with ⟨hp, hp'⟩ | ⟨p, p', hp, hp', halike⟩
  · rw [hp, hp']
  · rw [hp, hp', Option.bind_some, Option.bind_some, halike.name, halike.children]

theorem wrapsEnum (e : Enumeration Decl) : ctx'.wrapsEnum e = ctx.wrapsEnum e := by
  unfold Context.wrapsEnum
  rw [h.hostsMembers, h.types.isEnumType]

theorem memberIssues (d : Decl) : ctx'.memberIssues d = ctx.memberIssues d := by
  unfold Context.memberIssues
  rw [h.hostsMembers, h.disambiguatedName?]

theorem contentIssues (id : DeclId) (content : FieldContent) :
    ctx'.contentIssues id content = ctx.contentIssues id content := by
  cases content with
  | base type =>
    unfold Context.contentIssues
    rw [h.designates]
  | bits start width type =>
    unfold Context.contentIssues
    rw [h.types.isBitFieldType]
  | _ => rfl

theorem kindIssues (default : CallingConvention) (d : Decl) :
    ctx'.kindIssues default d = ctx.kindIssues default d := by
  unfold Context.kindIssues
  cases d.kind with
  | enumeration e =>
    simp only [enumIssues, h.wrapsEnum, h.hostsMembers, h.types.isEnumType]
  | enumConstant value isExplicit =>
    simp only [enumConstantIssues_eq, h.parentForm]
  | function f => simp only [functionIssues, h.hostsMembers]
  | parameter type value =>
    simp only [parameterIssues_eq, parameterPlaceIssues_eq, h.parentForm, defaultIssues,
      h.types.allowsDefault]
  | field offset content => simp only [h.memberIssues, h.contentIssues]
  | staticField mangledName type => simp only [h.memberIssues]
  | vtable entries => simp only [h.designates]
  | _ => rfl

/-- **Places that look the same give the same findings.** -/
theorem issues (default : CallingConvention) (d : Decl) :
    ctx'.issues default d = ctx.issues default d := by
  unfold Context.issues accessibilityIssues
  rw [h.kindIssues, h.isRoot]

theorem repairedKind (k : Kind Decl) : ctx'.repairedKind k = ctx.repairedKind k := by
  unfold Context.repairedKind
  cases k with
  | enumeration e =>
    simp only [repairedLoose, h.wrapsEnum, h.hostsMembers, h.types.isEnumType]
  | parameter type value => simp only [repairedDefault, h.types.allowsDefault]
  | _ => rfl

/-- **Places that look the same ask for the same repair.** -/
theorem repair (d : Decl) : ctx'.repair d = ctx.repair d := by
  unfold Context.repair repairedName repairedMetadata newName? repairedAccessibility
  rw [h.repairedKind, h.isRoot, h.disambiguatedName?]

theorem needsContainer (d : Decl) : ctx'.needsContainer d = ctx.needsContainer d := by
  unfold Context.needsContainer
  cases d.kind with
  | enumeration e => exact h.wrapsEnum e
  | _ => rfl

end SeesAlike

end Context

/-! ## Declarations -/

namespace Decl.ReadsAlike

variable {d d' : Decl} (h : d.ReadsAlike d')

include h

theorem issues (ctx : Context) (default : CallingConvention) :
    ctx.issues default d' = ctx.issues default d := by
  obtain ⟨hrest, hview⟩ := h
  generalize d'.diagnostics = diagnostics at hrest
  generalize d'.children = children at hrest hview
  subst hrest
  exact ctx.issues_of_view default d hview

theorem repair (ctx : Context) : ctx.repair d' =
    { ctx.repair d with
      diagnostics := d'.diagnostics
      kind := (ctx.repair d).kind.withChildren d'.children } := by
  obtain ⟨hrest, -⟩ := h
  generalize d'.diagnostics = diagnostics at hrest ⊢
  generalize d'.children = children at hrest ⊢
  subst hrest
  have hrepair := ctx.repair_withChildren d children
  exact congrArg (fun e : Decl => { e with diagnostics }) hrepair

theorem needsContainer (ctx : Context) : ctx.needsContainer d' = ctx.needsContainer d := by
  obtain ⟨hrest, -⟩ := h
  generalize d'.diagnostics = diagnostics at hrest
  generalize d'.children = children at hrest
  subst hrest
  obtain ⟨id, name, scope, accessibility, file, _, metadata, kind⟩ := d
  cases kind <;> rfl

theorem danglingIssues {N N' : Library} (hcontains : N'.contains = N.contains) :
    N'.danglingIssues d' = N.danglingIssues d := by
  have hrefs : d'.kind.declRefs = d.kind.declRefs := by
    rw [h.rest]
    unfold Kind.declRefs
    rw [Kind.type?_withChildren]
  rw [Library.danglingIssues_congr hcontains, Library.danglingIssues, Library.danglingIssues,
    Library.danglingNames, Library.danglingNames, hrefs]

end Decl.ReadsAlike

/-- **Declarations that read the same, in places that look the same, are checked in the same way**:
they are repaired alike, and the same findings are attached to the diagnostics that each has. -/
theorem Context.SeesAlike.check {ctx ctx' : Context} {d d' : Decl} (hctx : ctx.SeesAlike ctx')
    (hd : d.ReadsAlike d') (default : CallingConvention) : ctx'.check default d' =
      { ctx.check default d with
        diagnostics := Issue.attachAll d'.diagnostics (ctx.issues default d)
        kind := (ctx.check default d).kind.withChildren d'.children } := by
  rw [Context.check, hctx.issues, hctx.repair, hd.issues, hd.repair]
  rfl

end NativeApi

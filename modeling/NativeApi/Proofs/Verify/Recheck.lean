import NativeApi.Proofs.Verify.Lookups
import NativeApi.Proofs.Verify.Names

/-!
# A second check

What one check repaired and reported, a second check leaves as it is, even though it takes place
elsewhere: the parent is settled by then, and an enum may have got a container.  `Context.Precedes`
says what the second place must have kept of the first.

* `Context.issues_repair_subset`: whatever the second check finds was found before.
* `Context.repair_repair`: there is nothing left to repair.
* `Context.check_settle`: so a settled declaration stays as it is.
-/

namespace NativeApi.Context

variable {ctx ctx' : Context} {d : Decl}

/-! ## Accessibility -/

/-- A level of accessibility that a place allows. -/
def AllowsLevel (ctx : Context) (a : Accessibility) : Prop :=
  (ctx.isRoot && !a.isRootLevel) = false ∧ a.isProtected = false

theorem allowsLevel_repairedAccessibility (ctx : Context) (d : Decl) :
    ctx.AllowsLevel (ctx.repairedAccessibility d) := by
  unfold repairedAccessibility
  split
  · exact ⟨Bool.and_false _, rfl⟩
  · next h =>
    rw [Bool.not_eq_true, Bool.or_eq_false_iff] at h
    exact h

theorem AllowsLevel.mono {a : Accessibility} (h : ctx.AllowsLevel a)
    (hroot : ctx'.isRoot = true → ctx.isRoot = true) : ctx'.AllowsLevel a := by
  refine ⟨?_, h.2⟩
  by_cases hisroot : ctx'.isRoot = true
  · have hlevel := h.1
    rwa [hroot hisroot, ← hisroot] at hlevel
  · rw [Bool.not_eq_true] at hisroot
    rw [hisroot, Bool.false_and]

theorem AllowsLevel.accessibilityIssues_eq_nil (h : ctx.AllowsLevel d.accessibility) :
    ctx.accessibilityIssues d = [] := by
  rw [accessibilityIssues, h.1, h.2]
  rfl

theorem AllowsLevel.repairedAccessibility_eq (h : ctx.AllowsLevel d.accessibility) :
    ctx.repairedAccessibility d = d.accessibility := by
  rw [repairedAccessibility, h.1, h.2]
  rfl

/-! ## Names -/

theorem disambiguatedName?_repair (hnew : ctx.newName? d = ctx.disambiguatedName? d)
    (hparent : ctx'.parent?.map Decl.name = ctx.parent?.map Decl.name) :
    ctx'.disambiguatedName? (ctx.repair d) = none := by
  rw [← Option.not_isSome_iff_eq_none, isSome_disambiguatedName?_iff]
  rintro ⟨hne, hname⟩
  rw [hparent] at hname
  change ctx.repairedName d ≠ "" at hne
  change ctx.parent?.map Decl.name = some (ctx.repairedName d) at hname
  rw [repairedName, hnew] at hne hname
  cases hrenamed : ctx.disambiguatedName? d with
  | none =>
    -- the name clashed before, so it was changed
    rw [hrenamed] at hne hname
    have := isSome_disambiguatedName?_iff.mpr ⟨hne, hname⟩
    rw [hrenamed] at this
    exact absurd this (by decide)
  | some new =>
    -- the new name differs from that of the parent
    obtain ⟨parent, k, hp, _, rfl, _⟩ := disambiguatedName?_spec hrenamed
    rw [hrenamed, hp] at hname
    exact underscored_succ_ne _ _ (Option.some.inj hname).symm

theorem newName?_repair (h : ctx.Precedes ctx' d) : ctx'.newName? (ctx.repair d) = none := by
  obtain ⟨id, name, scope, accessibility, file, diagnostics, metadata, kind⟩ := d
  cases kind with
  | field offset content => exact disambiguatedName?_repair rfl (h.parentName rfl)
  | staticField mangledName type => exact disambiguatedName?_repair rfl (h.parentName rfl)
  | _ => rfl

/-! ## Enums -/

/-- An enum that may keep its form in a place: a real one has an integer of fixed width for its
underlying type, and loose constants have something around them. -/
structure AllowsEnum (ctx : Context) (e : Enumeration Decl) : Prop where
  loose : e.isLoose = true → ctx.hostsMembers = true
  real : e.isLoose = false → ctx.library.isEnumType e.type = true

theorem allowsEnum_repairedLoose {e : Enumeration Decl}
    (htypes : ctx'.library.isEnumType = ctx.library.isEnumType)
    (hhosts : ctx'.hostsMembers = (ctx.hostsMembers || ctx.wrapsEnum e)) :
    ctx'.AllowsEnum { e with isLoose := ctx.repairedLoose e } := by
  refine ⟨fun hloose => ?_, fun hreal => ?_⟩
  · rw [hhosts]
    change ctx.repairedLoose e = true at hloose
    unfold repairedLoose at hloose
    cases hwraps : ctx.wrapsEnum e with
    | true => exact Bool.or_true _
    | false =>
      unfold wrapsEnum at hwraps hloose
      revert hwraps hloose
      cases ctx.hostsMembers <;> cases ctx.library.isEnumType e.type <;> cases e.isLoose <;> decide
  · change ctx.repairedLoose e = false at hreal
    show ctx'.library.isEnumType e.type = true
    rw [htypes]
    unfold repairedLoose wrapsEnum at hreal
    revert hreal
    cases ctx.hostsMembers <;> cases ctx.library.isEnumType e.type <;> cases e.isLoose <;> decide

theorem AllowsEnum.wrapsEnum_eq_false {e : Enumeration Decl} (h : ctx.AllowsEnum e) :
    ctx.wrapsEnum e = false := by
  unfold wrapsEnum
  cases hloose : e.isLoose with
  | true => rw [h.loose hloose, Bool.not_true, Bool.false_and]
  | false => rw [h.real hloose, Bool.not_true, Bool.and_false]

theorem AllowsEnum.enumIssues_eq_nil {e : Enumeration Decl} (h : ctx.AllowsEnum e)
    (name : String) : ctx.enumIssues name e = [] := by
  unfold enumIssues
  rw [h.wrapsEnum_eq_false]
  cases hloose : e.isLoose with
  | true => rw [h.loose hloose]; rfl
  | false => rw [h.real hloose]; rfl

theorem AllowsEnum.repairedLoose_eq {e : Enumeration Decl} (h : ctx.AllowsEnum e) :
    ctx.repairedLoose e = e.isLoose := by
  unfold repairedLoose
  rw [h.wrapsEnum_eq_false]
  cases hloose : e.isLoose with
  | true => rw [h.loose hloose]; rfl
  | false => rw [h.real hloose]; rfl

/-! ## Defaults -/

/-- The findings about a default, apart from where the parameter is. -/
def defaultIssues (ctx : Context) (type : TypeRef) (value : Option Constant) : List Issue :=
  match value with
  | some (.string _) => [.stringDefault]
  | some (.integer _) | some (.float _) =>
    if ctx.library.allowsDefault type then [] else [.ineligibleDefault type]
  | some (.unsupported _) | none => []

def parameterPlaceIssues (ctx : Context) : List Issue :=
  match ctx.parent?.map Decl.kind with
  | some (.function _) => []
  | _ => [.parameterOutsideFunction]

theorem parameterIssues_eq (ctx : Context) (type : TypeRef) (value : Option Constant) :
    ctx.parameterIssues type value = ctx.parameterPlaceIssues ++ ctx.defaultIssues type value :=
  rfl

theorem parameterPlaceIssues_eq (ctx : Context) : ctx.parameterPlaceIssues
    = if ctx.parent?.map (fun p => p.kind.form) = some .function then []
      else [.parameterOutsideFunction] := by
  unfold parameterPlaceIssues
  cases ctx.parent? with
  | none => rfl
  | some p =>
    rw [Option.map_some, Option.map_some]
    cases p.kind <;> rfl

theorem enumConstantIssues_eq (ctx : Context) : ctx.enumConstantIssues
    = if ctx.parent?.map (fun p => p.kind.form) = some .enumeration then []
      else [.enumConstantOutsideEnum] := by
  unfold enumConstantIssues
  cases ctx.parent? with
  | none => rfl
  | some p =>
    rw [Option.map_some, Option.map_some]
    cases p.kind <;> rfl

theorem defaultIssues_repairedDefault (htypes : ctx'.library.allowsDefault
    = ctx.library.allowsDefault) (type : TypeRef) (value : Option Constant) :
    ctx'.defaultIssues type (ctx.repairedDefault type value) = [] ∧
      ctx'.repairedDefault type (ctx.repairedDefault type value)
        = ctx.repairedDefault type value := by
  unfold repairedDefault defaultIssues
  rw [htypes]
  cases hallowed : ctx.library.allowsDefault type <;>
    rcases value with _ | _ | _ | _ | _ <;> simp

/-! ## Functions -/

theorem losesErrorCode_repair {f : Callable Decl} (h : d.kind = .function f) :
    losesErrorCode (ctx.repair d) f = false := by
  have hmetadata : (ctx.repair d).metadata
      = if losesErrorCode d f then d.metadata.erase .setLastError else d.metadata := by
    simp only [repair, repairedMetadata, newName?, h]
  unfold losesErrorCode at hmetadata ⊢
  rw [hmetadata]
  split
  · rw [Metadata.has_erase, Bool.and_false]
  · next hkept => exact Bool.eq_false_iff.mpr hkept

theorem functionIssues_repair_subset (default : CallingConvention) {f : Callable Decl}
    (hkind : d.kind = .function f) (h : ctx.Precedes ctx' d) :
    ctx'.functionIssues default (ctx.repair d) f ⊆ ctx.functionIssues default d f := by
  have hname : (ctx.repair d).name = d.name := by
    simp only [repair, repairedName, newName?, hkind, Option.getD_none]
  have hhosts : ctx'.hostsMembers = ctx.hostsMembers :=
    h.hosts_of_form_ne (by rw [hkind]; exact nofun)
  unfold functionIssues
  rw [hhosts, losesErrorCode_repair hkind, hname]
  refine List.append_subset.mpr ⟨List.append_subset.mpr ⟨?_, ?_⟩, ?_⟩
  · exact List.Subset.trans (List.subset_append_left _ _) (List.subset_append_left _ _)
  · exact List.nil_subset _
  · exact List.subset_append_right _ _

/-! ## Fields and vtables -/

theorem memberIssues_repair_subset (h : ctx.Precedes ctx' d)
    (hform : d.kind.form ≠ .enumeration) (hnew : ctx.newName? d = ctx.disambiguatedName? d)
    (hkind : (ctx.repair d).kind = d.kind) :
    ctx'.memberIssues (ctx.repair d) ⊆ ctx.memberIssues d := by
  have hnone : ctx'.disambiguatedName? (ctx.repair d) = none :=
    disambiguatedName?_repair hnew (h.parentName (needsContainer_of_form_ne hform))
  unfold memberIssues
  rw [hnone, h.hosts_of_form_ne hform, hkind]
  exact List.append_subset.mpr ⟨List.subset_append_left _ _, List.nil_subset _⟩

/-- Whatever a slot was found to lack, it lacked before. -/
theorem designates_subset {slot : Slot} {id : DeclId} {issue : Issue}
    (h : ctx.designates slot id = true → ctx'.designates slot id = true) :
    (if ctx'.designates slot id then [] else [issue])
      ⊆ if ctx.designates slot id then [] else [issue] := by
  by_cases hbefore : ctx.designates slot id = true
  · rw [if_pos (h hbefore)]
    exact List.nil_subset _
  · rw [if_neg hbefore]
    split
    · exact List.nil_subset _
    · exact List.Subset.refl _

theorem contentIssues_subset {content : FieldContent} {id : DeclId}
    (htypes : ctx'.library.isBitFieldType = ctx.library.isBitFieldType)
    (h : content.form = .base → ctx.designates .baseField id = true →
      ctx'.designates .baseField id = true) :
    ctx'.contentIssues id content ⊆ ctx.contentIssues id content := by
  cases content with
  | base type => exact designates_subset (h rfl)
  | bits start width type =>
    unfold contentIssues
    rw [htypes]
    exact List.Subset.refl _
  | _ => exact List.Subset.refl _

/-! ## All kinds -/

theorem Precedes.allowsEnum {e : Enumeration Decl} (h : ctx.Precedes ctx' d)
    (htypes : SameTypes ctx.library ctx'.library)
    (hkind : d.kind = .enumeration e) :
    ctx'.AllowsEnum { e with isLoose := ctx.repairedLoose e } := by
  refine allowsEnum_repairedLoose htypes.isEnumType ?_
  rw [h.hosts, needsContainer, hkind]

theorem kindIssues_repair_subset (default : CallingConvention)
    (htypes : SameTypes ctx.library ctx'.library) (h : ctx.Precedes ctx' d) :
    ctx'.kindIssues default (ctx.repair d) ⊆ ctx.kindIssues default d := by
  obtain ⟨id, name, scope, accessibility, file, diagnostics, metadata, kind⟩ := d
  cases kind with
  | enumeration e =>
    show ctx'.enumIssues _ { e with isLoose := ctx.repairedLoose e } ⊆ _
    rw [(h.allowsEnum htypes rfl).enumIssues_eq_nil]
    exact List.nil_subset _
  | enumConstant value isExplicit =>
    show ctx'.enumConstantIssues ⊆ ctx.enumConstantIssues
    rw [enumConstantIssues_eq, enumConstantIssues_eq, h.parentForm rfl]
    exact List.Subset.refl _
  | function f => exact functionIssues_repair_subset default rfl h
  | parameter type value =>
    show ctx'.parameterIssues type (ctx.repairedDefault type value)
      ⊆ ctx.parameterIssues type value
    rw [parameterIssues_eq, parameterIssues_eq,
      (defaultIssues_repairedDefault htypes.allowsDefault type value).1, parameterPlaceIssues_eq,
      parameterPlaceIssues_eq, h.parentForm rfl, List.append_nil]
    exact List.subset_append_left _ _
  | field offset content =>
    refine List.append_subset.mpr ⟨?_, ?_⟩
    · exact List.Subset.trans (memberIssues_repair_subset h nofun rfl rfl)
        (List.subset_append_left _ _)
    · refine List.Subset.trans (contentIssues_subset htypes.isBitFieldType fun hbase => ?_)
        (List.subset_append_right _ _)
      refine h.designates .baseField (Decl.fills_iff.mpr ?_)
      exact congrArg Form.field hbase
  | staticField mangledName type => exact memberIssues_repair_subset h nofun rfl rfl
  | vtable entries => exact designates_subset (h.designates .vtable rfl)
  | _ => exact List.Subset.refl _

/-- **Whatever the second check finds was found before.** -/
theorem issues_repair_subset (default : CallingConvention)
    (htypes : SameTypes ctx.library ctx'.library) (h : ctx.Precedes ctx' d) :
    ctx'.issues default (ctx.repair d) ⊆ ctx.issues default d := by
  have hlevel : ctx'.AllowsLevel (ctx.repair d).accessibility :=
    (allowsLevel_repairedAccessibility ctx d).mono h.isRoot
  unfold issues
  rw [hlevel.accessibilityIssues_eq_nil, List.nil_append]
  exact List.Subset.trans (kindIssues_repair_subset default htypes h) (List.subset_append_right _ _)

theorem repairedKind_repairedKind (htypes : SameTypes ctx.library ctx'.library)
    (h : ctx.Precedes ctx' d) :
    ctx'.repairedKind (ctx.repairedKind d.kind) = ctx.repairedKind d.kind := by
  cases hkind : d.kind with
  | enumeration e =>
    show Kind.enumeration { e with
      isLoose := ctx'.repairedLoose { e with isLoose := ctx.repairedLoose e } } = _
    rw [(h.allowsEnum htypes hkind).repairedLoose_eq]
    rfl
  | parameter type value =>
    show Kind.parameter type (ctx'.repairedDefault type (ctx.repairedDefault type value)) = _
    rw [(defaultIssues_repairedDefault htypes.allowsDefault type value).2]
    rfl
  | _ => rfl

theorem repairedMetadata_repair (h : ctx.Precedes ctx' d) :
    ctx'.repairedMetadata (ctx.repair d) = (ctx.repair d).metadata := by
  unfold repairedMetadata
  rw [newName?_repair h]
  dsimp only
  split
  · next f hf =>
    have hkind : d.kind = .function f := kind_of_repairedKind nofun nofun hf
    rw [losesErrorCode_repair hkind]
    rfl
  · rfl

/-- **There is nothing left to repair.** -/
theorem repair_repair (htypes : SameTypes ctx.library ctx'.library) (h : ctx.Precedes ctx' d) :
    ctx'.repair (ctx.repair d) = ctx.repair d := by
  have hlevel : ctx'.AllowsLevel (ctx.repair d).accessibility :=
    (allowsLevel_repairedAccessibility ctx d).mono h.isRoot
  have hname : ctx'.repairedName (ctx.repair d) = (ctx.repair d).name := by
    rw [repairedName, newName?_repair h, Option.getD_none]
  rw [repair, hname, hlevel.repairedAccessibility_eq, repairedMetadata_repair h]
  change Decl.mk _ _ _ _ _ _ _ (ctx'.repairedKind (ctx.repairedKind d.kind)) = _
  rw [repairedKind_repairedKind htypes h]
  rfl

theorem needsContainer_repair (htypes : SameTypes ctx.library ctx'.library)
    (h : ctx.Precedes ctx' d) :
    ctx'.needsContainer (ctx.repair d) = false := by
  obtain ⟨id, name, scope, accessibility, file, diagnostics, metadata, kind⟩ := d
  cases kind with
  | enumeration e => exact (h.allowsEnum htypes rfl).wrapsEnum_eq_false
  | _ => rfl

/-! ## Settled declarations -/

/-- **A settled declaration stays as it is.** -/
theorem check_settle (default : CallingConvention) (N : Library)
    (htypes : SameTypes ctx.library ctx'.library) (h : ctx.Precedes ctx' d) :
    ctx'.check default (ctx.settle default N d) = ctx.settle default N d := by
  have hrepair : ctx'.repair (ctx.settle default N d) = ctx.settle default N d := by
    have := congrArg (fun e : Decl =>
      { e with diagnostics := (ctx.settle default N d).diagnostics }) (repair_repair htypes h)
    exact this
  have hissues : Issue.attachAll (ctx.settle default N d).diagnostics
      (ctx'.issues default (ctx.settle default N d)) = (ctx.settle default N d).diagnostics := by
    refine Diagnostics.attachAll_eq_self fun issue hissue => ?_
    have hbefore : issue ∈ ctx.issues default d := issues_repair_subset default htypes h hissue
    rw [diagnostics_settle]
    exact Diagnostics.records_attachAll (List.mem_append_left _ hbefore) _
  rw [check, hrepair, hissues]
  exact Decl.eta _

end NativeApi.Context

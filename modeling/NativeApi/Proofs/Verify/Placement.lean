import NativeApi.Proofs.Verify.Recheck
import NativeApi.Sample

/-!
# The placement of verified declarations

Some declarations can only stand inside others: a parameter inside a function, a constant inside
an enum, functions and fields inside a record or a container for loose declarations.
`Form.AllowsParent` is this table, and `Visit.WellPlaced` says that a declaration in its place
respects it and has a level of accessibility and a name that the place allows.

Verification reports what it cannot repair as an error, and judges a declaration by the library
before.  As a place keeps the form and the name of what is directly around it, the judgement holds
of the verified library (`verify_wellPlaced`), whatever the ids are.

* `Context.exists_error_of_not_allowsParent`: a misplaced declaration gets an error.
* `Counterpart.wellPlaced`, `Enclosure.wellPlaced`: old declarations and new containers.
-/

namespace NativeApi

variable {default : CallingConvention} {L N : Library}

/-! ## The table of parents -/

namespace Form

/-- Which forms the declaration directly around another may have; `none` is the root. -/
def AllowsParent : Form → Option Form → Prop
  | enumConstant, parent => parent = some enumeration
  | parameter, parent => parent = some function
  | function, parent | field _, parent | staticField, parent =>
    parent = some record ∨ parent = some (container .looseDeclarations)
  | record, _ | enumeration, _ | vtable, _ | typedef, _ | undefinedRecord, _ | unsupported, _
  | container _, _ => True

/-- A field of any kind, static or not. -/
def IsField : Form → Prop
  | field _ | staticField => True
  | _ => False

theorem IsField.ne_enumeration {form : Form} (h : form.IsField) : form ≠ enumeration := by
  rintro rfl
  exact h

end Form

def Visit.parentForm? (v : Visit) : Option Form := v.parent?.map fun p => p.kind.form

/-- A declaration stands where its form, its level of accessibility and its name allow. -/
structure Visit.WellPlaced (v : Visit) : Prop where
  unprotected : v.decl.accessibility.isProtected = false
  rootLevel : v.parent? = none →
    v.decl.accessibility = .publicAccess ∨ v.decl.accessibility = .internalAccess
  parent : v.decl.hasErrors = false → v.decl.kind.form.AllowsParent v.parentForm?
  arranged : v.decl.hasErrors = false → ∀ f, v.decl.kind = .function f →
    f.arrangement.isSome = true
  unsupported : v.decl.kind.form = .unsupported → v.decl.hasErrors = true
  errorCode : ∀ f, v.decl.kind = .function f → f.isVirtual = true →
    v.decl.metadata.has .setLastError = false
  named : v.decl.kind.form.IsField → ∀ p, v.parent? = some p → v.decl.name ≠ "" →
    v.decl.name ≠ p.name

/-! ## What the rules ask of a place -/

namespace Context

variable {ctx : Context} {d : Decl}

theorem hostsMembers_iff : ctx.hostsMembers = true ↔
    ctx.parent?.map (fun p => p.kind.form) = some .record ∨
      ctx.parent?.map (fun p => p.kind.form) = some (.container .looseDeclarations) := by
  unfold hostsMembers
  cases ctx.parent? with
  | none => simp
  | some p =>
    dsimp only
    rw [Kind.hostsMembers_eq, decide_eq_true_iff, Option.map_some, Option.some.injEq,
      Option.some.injEq]

/-- **A misplaced declaration gets an error.** -/
theorem exists_error_of_not_allowsParent (ctx : Context) (default : CallingConvention)
    (h : ¬ d.kind.form.AllowsParent (ctx.parent?.map fun p => p.kind.form)) :
    ∃ issue ∈ ctx.kindIssues default d, issue.severity = .error := by
  obtain ⟨id, name, scope, accessibility, file, diagnostics, metadata, kind⟩ := d
  cases kind with
  | enumConstant value isExplicit =>
    refine ⟨.enumConstantOutsideEnum, ?_, rfl⟩
    show _ ∈ ctx.enumConstantIssues
    rw [enumConstantIssues_eq]
    exact (if_neg h) ▸ List.mem_singleton_self _
  | parameter type value =>
    refine ⟨.parameterOutsideFunction, List.mem_append_left _ ?_, rfl⟩
    show _ ∈ ctx.parameterPlaceIssues
    rw [parameterPlaceIssues_eq]
    exact (if_neg h) ▸ List.mem_singleton_self _
  | function f =>
    refine ⟨.functionMisplaced, List.mem_append_left _ (List.mem_append_left _ ?_), rfl⟩
    rw [if_neg fun hhosts => h (hostsMembers_iff.mp hhosts)]
    exact List.mem_singleton_self _
  | field offset content =>
    refine ⟨.fieldMisplaced (Kind.field offset content : Kind Decl).name,
      List.mem_append_left _ (List.mem_append_left _ ?_), rfl⟩
    rw [if_neg fun hhosts => h (hostsMembers_iff.mp hhosts)]
    exact List.mem_singleton_self _
  | staticField mangledName type =>
    refine ⟨.fieldMisplaced "static field", List.mem_append_left _ ?_, rfl⟩
    rw [if_neg fun hhosts => h (hostsMembers_iff.mp hhosts)]
    exact List.mem_singleton_self _
  | _ => exact absurd trivial h

theorem newName?_of_isField (h : d.kind.form.IsField) :
    ctx.newName? d = ctx.disambiguatedName? d := by
  unfold newName?
  cases hkind : d.kind <;> rw [hkind] at h <;> first | rfl | exact h.elim

theorem newName?_of_not_isField (h : ¬ d.kind.form.IsField) : ctx.newName? d = none := by
  unfold newName?
  cases hkind : d.kind <;> rw [hkind] at h <;> first | rfl | exact absurd trivial h

theorem AllowsLevel.isRootLevel {a : Accessibility} (h : ctx.AllowsLevel a)
    (hroot : ctx.isRoot = true) : a = .publicAccess ∨ a = .internalAccess := by
  have hlevel := h.1
  rw [hroot, Bool.true_and, Bool.not_eq_false'] at hlevel
  cases a with
  | publicAccess => exact .inl rfl
  | internalAccess => exact .inr rfl
  | _ => exact absurd hlevel (by decide)

/-! ### Settled declarations -/

theorem isSome_arrangement_of_settle {f : Callable Decl}
    (hclean : (ctx.settle default N d).hasErrors = false)
    (hkind : (ctx.settle default N d).kind = .function f) : f.arrangement.isSome = true := by
  have hbefore : d.kind = .function f := kind_of_repairedKind nofun nofun hkind
  cases harrangement : f.arrangement with
  | some a => rfl
  | none =>
    refine absurd rfl (severity_ne_of_settle hclean .missingArrangement
      (List.mem_append_left _ (List.mem_append_right _ ?_)))
    rw [kindIssues, hbefore]
    refine List.mem_append_right _ ?_
    rw [harrangement]
    exact List.mem_singleton_self _

theorem hasErrors_settle_of_unsupported (hform : d.kind.form = .unsupported) :
    (ctx.settle default N d).hasErrors = true := by
  obtain ⟨what, hkind⟩ := Kind.form_eq_unsupported_iff.mp hform
  have hissue : .unsupportedDeclaration what ∈ ctx.issues default d := by
    refine List.mem_append_right _ ?_
    rw [kindIssues, hkind]
    exact List.mem_singleton_self _
  exact ctx.hasErrors_settle default N d (List.mem_append_left _ hissue) rfl

theorem has_setLastError_settle {f : Callable Decl}
    (hkind : (ctx.settle default N d).kind = .function f) (hvirtual : f.isVirtual = true) :
    (ctx.settle default N d).metadata.has .setLastError = false := by
  have hbefore : d.kind = .function f := kind_of_repairedKind nofun nofun hkind
  have hkept : losesErrorCode (ctx.repair d) f = false := losesErrorCode_repair hbefore
  rw [losesErrorCode, hvirtual, Bool.true_and] at hkept
  exact hkept

/-- No field keeps the name of what is around it, and its new name is another one as well. -/
theorem name_settle_ne (ctx ctx' : Context) (hfield : d.kind.form.IsField)
    (hparent : ctx'.parent?.map Decl.name = ctx.parent?.map Decl.name)
    (hname : (ctx.settle default N d).name ≠ "") :
    ctx'.parent?.map Decl.name ≠ some (ctx.settle default N d).name := by
  intro hsame
  have hnone : ctx'.disambiguatedName? (ctx.repair d) = none :=
    disambiguatedName?_repair (newName?_of_isField hfield) hparent
  rw [← Option.not_isSome_iff_eq_none, isSome_disambiguatedName?_iff] at hnone
  exact hnone ⟨hname, hsame⟩

end Context

/-! ## Levels of accessibility -/

/-- A settled declaration has a level that its new place allows. -/
theorem Counterpart.allowsLevel {v v' : Visit} (h : Counterpart default L N v v') :
    (Context.mk N v'.above).AllowsLevel v'.decl.accessibility := by
  obtain ⟨parts, _, hsettled⟩ := h.settles.exists_parts
  rw [hsettled]
  exact (Context.allowsLevel_repairedAccessibility ⟨L, v.above⟩ _).mono h.isRoot

theorem Enclosure.allowsLevel {v v' : Visit} (h : Enclosure default L N v v') :
    (Context.mk N v'.above).AllowsLevel v'.decl.accessibility := by
  cases h with
  | @intro above above' ds parts part id hs hpart hsome =>
    obtain ⟨inner, _, hsettled⟩ := (hs.settled.settles part hpart).exists_parts
    show (Context.mk N above').AllowsLevel part.settled.accessibility
    rw [hsettled]
    refine (Context.allowsLevel_repairedAccessibility ⟨L, above⟩ _).mono fun hroot => ?_
    rcases hs.parent_cases hpart with ⟨rfl, _⟩ | ⟨_, _, _, _, _, rfl, _⟩
    · rfl
    · exact absurd hroot Bool.false_ne_true

theorem Visit.rootLevel_of_allowsLevel {v : Visit}
    (h : (Context.mk N v.above).AllowsLevel v.decl.accessibility) (hroot : v.parent? = none) :
    v.decl.accessibility = .publicAccess ∨ v.decl.accessibility = .internalAccess := by
  refine h.isRootLevel ?_
  rw [Visit.parent?, List.head?_eq_none_iff] at hroot
  show v.above.isEmpty = true
  rw [hroot]
  rfl

/-! ## The verified library -/

theorem Counterpart.allowsParent {v v' : Visit} (h : Counterpart default L N v v')
    (hclean : v'.decl.hasErrors = false) : v'.decl.kind.form.AllowsParent v'.parentForm? := by
  rw [h.continues.form]
  cases hneeds : (Context.mk L v.above).needsContainer v.decl with
  | true =>
    -- an enum may stand anywhere
    rw [Context.form_of_needsContainer hneeds]
    trivial
  | false =>
    obtain ⟨parts, _, hsettled⟩ := h.settles.exists_parts
    rw [hsettled] at hclean
    rw [Visit.parentForm?, h.parentForm hneeds]
    by_contra hmisplaced
    rw [← (v.decl.continues_withSettled (parts.map SettledPart.result)).form] at hmisplaced
    obtain ⟨issue, hissue, herror⟩ :=
      Context.exists_error_of_not_allowsParent ⟨L, v.above⟩ default hmisplaced
    exact Context.severity_ne_of_settle hclean issue
      (List.mem_append_left _ (List.mem_append_right _ hissue)) herror

theorem Counterpart.wellPlaced {v v' : Visit} (h : Counterpart default L N v v') :
    v'.WellPlaced := by
  have hform := h.continues.form
  obtain ⟨parts, _, hsettled⟩ := h.settles.exists_parts
  have hrebuilt := (v.decl.continues_withSettled (parts.map SettledPart.result)).form
  constructor
  case unprotected => exact h.allowsLevel.2
  case rootLevel => exact Visit.rootLevel_of_allowsLevel h.allowsLevel
  case parent => exact h.allowsParent
  case arranged =>
    rw [hsettled]
    exact fun hclean f hkind => Context.isSome_arrangement_of_settle hclean hkind
  case unsupported =>
    intro hunsupported
    rw [hform, ← hrebuilt] at hunsupported
    rw [hsettled]
    exact Context.hasErrors_settle_of_unsupported hunsupported
  case errorCode =>
    rw [hsettled]
    exact fun f hkind hvirtual => Context.has_setLastError_settle hkind hvirtual
  case named =>
    intro hfield p hp hname hsame
    rw [hform] at hfield
    have hparent := h.parentName (Context.needsContainer_of_form_ne hfield.ne_enumeration)
    rw [← hrebuilt] at hfield
    rw [hsettled] at hname hsame
    refine Context.name_settle_ne ⟨L, v.above⟩ ⟨N, v'.above⟩ hfield hparent hname ?_
    show v'.parent?.map Decl.name = _
    rw [hp, hsame]
    rfl

theorem Enclosure.wellPlaced {v v' : Visit} (h : Enclosure default L N v v') :
    v'.WellPlaced where
  unprotected := (h.allowsLevel).2
  rootLevel := Visit.rootLevel_of_allowsLevel h.allowsLevel
  parent _ := by
    rw [h.form]
    trivial
  arranged _ f hkind := by
    have hform := h.form
    rw [hkind] at hform
    cases hform
  unsupported hform := by
    rw [h.form] at hform
    cases hform
  errorCode f hkind := by
    have hform := h.form
    rw [hkind] at hform
    cases hform
  named hfield := by
    rw [h.form] at hfield
    exact hfield.elim

/-- **Verified declarations are well placed**, and so are the containers made for them. -/
theorem verify_wellPlaced (default : CallingConvention) (L : Library) :
    ∀ v ∈ (verify default L).visits, v.WellPlaced := by
  intro v' hv'
  obtain ⟨v, _, hcounter | henclosure⟩ := mem_visits_verify default L v' hv'
  · exact hcounter.wellPlaced
  · exact henclosure.wellPlaced

theorem verify_wellPlaced_sample : ∃ v ∈ (verify .c Sample.library).visits,
    v.decl.name = "Widget_" ∧ v.parent?.map Decl.name = some "Widget" ∧ v.WellPlaced := by
  obtain ⟨v, hv, hname, hparent⟩ : ∃ v ∈ (verify .c Sample.library).visits,
      v.decl.name = "Widget_" ∧ v.parent?.map Decl.name = some "Widget" := by decide +kernel
  exact ⟨v, hv, hname, hparent, verify_wellPlaced .c Sample.library v hv⟩

end NativeApi

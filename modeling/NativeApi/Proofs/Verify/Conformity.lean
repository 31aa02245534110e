import NativeApi.Proofs.Verify.Layout
import NativeApi.Proofs.Verify.Representability

/-!
# Declarations that verification leaves alone

`Visit.Conforms` states the rules for a declaration in its place, said without the findings and the
repairs: its level of accessibility, its parent, its name, its references, and what its kind asks
for.  Verification has nothing to say about a declaration that meets them, whatever happens to the
declarations around it: outside its child list it stays as it is, and it gets no container
(`verify_keeps_conforming`).

* `Visit.Conforms.records_issues`: the only finding about such a declaration is one that it shows
  already.
* `Visit.Conforms.repair_eq`: there is nothing to repair.
* `Visit.Conforms.withChildren`: the rules look at the children of a record only by id and form, so
  a declaration meets them with its settled children as well.
-/

namespace NativeApi

variable {default : CallingConvention} {L N : Library}

/-! ## The rules -/

/-- An arrangement that the target handles rightly: the default convention throughout, written as
one that is known, nothing on an implicit stack, no further details, and nothing split. -/
structure Arrangement.IsPlain (a : Arrangement) (default : CallingConvention) : Prop where
  convention : a.convention = default
  effective : a.effective = default
  declared : ∃ convention, a.declared = .known convention
  usesInAlloca : a.usesInAlloca = false
  hasExtendedInfo : a.hasExtendedInfo = false
  result : a.result.isExpanded = false
  arguments : ∀ passed ∈ a.arguments, passed.isExpanded = false

namespace Visit

/-- The record directly around a place designates the declaration there. -/
def IsDesignated (v : Visit) (slot : Slot) : Prop :=
  ∃ p r, v.parent? = some p ∧ p.kind = .record r ∧ r.handle slot = some v.decl.id

/-- What a field may hold in its place. -/
def AllowsContent (L : Library) (v : Visit) : FieldContent → Prop
  | .normal _ | .vtablePointer => True
  | .base _ => v.IsDesignated .baseField
  | .bits _ _ type => L.isBitFieldType type = true
  | .unimplemented .. => False

/-- What a kind asks for in the place of a declaration.  That a declaration is unsupported has to be
reported already. -/
def AllowsKind (L : Library) (default : CallingConvention) (v : Visit) : Kind Decl → Prop
  | .record r => r.unsupported = [] ∧ r.LayoutClosed
  | .enumeration e =>
    (e.isLoose = true →
      v.parentForm? = some .record ∨ v.parentForm? = some (.container .looseDeclarations)) ∧
    (e.isLoose = false → L.isEnumType e.type = true)
  | .function f =>
    (f.isVirtual = true → v.decl.metadata.has .setLastError = false) ∧
    ∃ a, f.arrangement = some a ∧ a.IsPlain default
  | .parameter type value => ∀ c, value = some c → c.IsNumber ∧ L.allowsDefault type = true
  | .field _ content => v.AllowsContent L content
  | .vtable _ => v.IsDesignated .vtable
  | .unsupported _ => v.decl.hasErrors = true
  | .enumConstant .. | .staticField .. | .typedef _ | .undefinedRecord | .container .. => True

/-- A declaration meets all the rules in its place. -/
structure Conforms (L : Library) (default : CallingConvention) (v : Visit) : Prop where
  unprotected : v.decl.accessibility.isProtected = false
  rootLevel : v.parent? = none →
    v.decl.accessibility = .publicAccess ∨ v.decl.accessibility = .internalAccess
  parent : v.decl.kind.form.AllowsParent v.parentForm?
  named : v.decl.kind.form.IsField → ∀ p, v.parent? = some p → v.decl.name ≠ "" →
    v.decl.name ≠ p.name
  references : ∀ ref ∈ v.decl.kind.declRefs, (L.find? ref.id).isSome = true
  kind : v.AllowsKind L default v.decl.kind

end Visit

/-! ## Rules that find nothing -/

theorem Arrangement.IsPlain.issues_eq_nil {a : Arrangement} (h : a.IsPlain default)
    (nameOf : Nat → String) : a.issues default nameOf = [] := by
  obtain ⟨convention, hdeclared⟩ := h.declared
  have hconvention : a.conventionIssues default = [] := if_pos ⟨h.convention, h.effective⟩
  have harguments : a.argumentIssues nameOf = [] := by
    refine List.filterMap_eq_nil_iff.mpr ?_
    rintro ⟨passed, index⟩ hmem
    exact if_neg (by rw [h.arguments passed (List.fst_mem_of_mem_zipIdx hmem)]; decide)
  rw [issues, hconvention, declaredIssues, hdeclared, h.usesInAlloca, h.hasExtendedInfo, h.result,
    harguments]
  rfl

namespace Context

variable {ctx : Context} {d : Decl}

theorem recordIssues_eq_nil {r : Record Decl} (hunsupported : r.unsupported = [])
    (hclosed : r.LayoutClosed) : recordIssues r = [] := by
  rw [recordIssues_of_layoutClosed hclosed, hunsupported]
  rfl

theorem designates_of_isDesignated {v : Visit} {slot : Slot} (h : v.IsDesignated slot) :
    (Context.mk L v.above).designates slot v.decl.id = true := by
  obtain ⟨p, r, hp, hkind, hhandle⟩ := h
  refine designates_iff.mpr ⟨p, hp, ?_⟩
  rw [Decl.record?, hkind]
  exact hhandle

theorem contentIssues_eq_nil {v : Visit} {content : FieldContent}
    (h : v.AllowsContent L content) :
    (Context.mk L v.above).contentIssues v.decl.id content = [] := by
  cases content with
  | base type => exact if_pos (designates_of_isDesignated h)
  | bits start width type => exact if_pos h
  | unimplemented what size => exact h.elim
  | _ => rfl

theorem defaultIssues_eq_nil (ctx : Context) {type : TypeRef} {value : Option Constant}
    (h : ∀ c, value = some c → c.IsNumber ∧ ctx.library.allowsDefault type = true) :
    ctx.defaultIssues type value = [] ∧ ctx.repairedDefault type value = value := by
  unfold defaultIssues repairedDefault
  rcases value with _ | number | number | text | spelling
  case none => exact ⟨rfl, rfl⟩
  case some.integer => exact ⟨if_pos (h _ rfl).2, if_pos (h _ rfl).2⟩
  case some.float => exact ⟨if_pos (h _ rfl).2, if_pos (h _ rfl).2⟩
  case some.string => exact (h _ rfl).1.elim
  case some.unsupported => exact (h _ rfl).1.elim

end Context

/-! ## Declarations that conform -/

namespace Visit.Conforms

variable {v : Visit}

theorem allowsLevel (h : v.Conforms L default) :
    (Context.mk L v.above).AllowsLevel v.decl.accessibility := by
  refine ⟨?_, h.unprotected⟩
  cases hroot : (Context.mk L v.above).isRoot with
  | false => rfl
  | true =>
    have habove : v.parent? = none := List.head?_eq_none_iff.mpr (List.isEmpty_iff.mp hroot)
    rcases h.rootLevel habove with hlevel | hlevel <;> rw [hlevel] <;> rfl

theorem disambiguatedName?_eq_none (h : v.Conforms L default)
    (hfield : v.decl.kind.form.IsField) :
    (Context.mk L v.above).disambiguatedName? v.decl = none := by
  rw [← Option.not_isSome_iff_eq_none, Context.isSome_disambiguatedName?_iff]
  rintro ⟨hne, hname⟩
  obtain ⟨p, hp, hsame⟩ := Option.map_eq_some_iff.mp hname
  exact h.named hfield p hp hne hsame.symm

theorem newName?_eq_none (h : v.Conforms L default) :
    (Context.mk L v.above).newName? v.decl = none := by
  by_cases hfield : v.decl.kind.form.IsField
  · rw [Context.newName?_of_isField hfield, h.disambiguatedName?_eq_none hfield]
  · exact Context.newName?_of_not_isField hfield

theorem allowsEnum (h : v.Conforms L default) {e : Enumeration Decl}
    (hkind : v.decl.kind = .enumeration e) : (Context.mk L v.above).AllowsEnum e := by
  have hrule := h.kind
  rw [hkind] at hrule
  exact ⟨fun hloose => Context.hostsMembers_iff.mpr (hrule.1 hloose), hrule.2⟩

theorem losesErrorCode_eq_false (h : v.Conforms L default) {f : Callable Decl}
    (hkind : v.decl.kind = .function f) : Context.losesErrorCode v.decl f = false := by
  have hrule := h.kind
  rw [hkind] at hrule
  rw [Context.losesErrorCode]
  cases hvirtual : f.isVirtual with
  | false => rfl
  | true => rw [hrule.1 hvirtual, Bool.and_false]

theorem functionIssues_eq_nil (h : v.Conforms L default) {f : Callable Decl}
    (hkind : v.decl.kind = .function f) :
    (Context.mk L v.above).functionIssues default v.decl f = [] := by
  have hparent := h.parent
  have hrule := h.kind
  rw [hkind] at hparent hrule
  have hhosts : (Context.mk L v.above).hostsMembers = true := Context.hostsMembers_iff.mpr hparent
  obtain ⟨_, a, harrangement, hplain⟩ := hrule
  rw [Context.functionIssues, hhosts, h.losesErrorCode_eq_false hkind, harrangement]
  exact hplain.issues_eq_nil _

theorem memberIssues_eq_nil (h : v.Conforms L default) (hfield : v.decl.kind.form.IsField) :
    (Context.mk L v.above).memberIssues v.decl = [] := by
  have hhosts : (Context.mk L v.above).hostsMembers = true := by
    refine Context.hostsMembers_iff.mpr ?_
    have hparent := h.parent
    cases hform : v.decl.kind.form <;> rw [hform] at hfield hparent <;>
      first | exact hparent | exact hfield.elim
  rw [Context.memberIssues, hhosts, h.disambiguatedName?_eq_none hfield]
  rfl

theorem kindIssues_eq_nil (h : v.Conforms L default) (hform : v.decl.kind.form ≠ .unsupported) :
    (Context.mk L v.above).kindIssues default v.decl = [] := by
  have hparent := h.parent
  have hrule := h.kind
  unfold Context.kindIssues
  cases hkind : v.decl.kind with
  | record r =>
    rw [hkind] at hrule
    exact Context.recordIssues_eq_nil hrule.1 hrule.2
  | enumeration e => exact (h.allowsEnum hkind).enumIssues_eq_nil _
  | enumConstant value isExplicit =>
    rw [hkind] at hparent
    dsimp only
    rw [Context.enumConstantIssues_eq]
    exact if_pos hparent
  | function f => exact h.functionIssues_eq_nil hkind
  | parameter type value =>
    rw [hkind] at hparent hrule
    dsimp only
    rw [Context.parameterIssues_eq, Context.parameterPlaceIssues_eq,
      (Context.defaultIssues_eq_nil ⟨L, v.above⟩ hrule).1, List.append_nil]
    exact if_pos hparent
  | field offset content =>
    rw [hkind] at hrule
    refine List.append_eq_nil_iff.mpr ⟨h.memberIssues_eq_nil ?_, Context.contentIssues_eq_nil hrule⟩
    rw [hkind]
    trivial
  | staticField mangledName type =>
    refine h.memberIssues_eq_nil ?_
    rw [hkind]
    trivial
  | vtable entries =>
    rw [hkind] at hrule
    exact if_pos (Context.designates_of_isDesignated hrule)
  | unsupported what =>
    rw [hkind] at hform
    exact absurd rfl hform
  | _ => rfl

/-- **Nothing is found that does not show.** -/
theorem records_issues (h : v.Conforms L default) :
    ∀ issue ∈ (Context.mk L v.above).issues default v.decl, v.decl.diagnostics.Records issue := by
  intro issue hissue
  rw [Context.issues, h.allowsLevel.accessibilityIssues_eq_nil, List.nil_append] at hissue
  by_cases hform : v.decl.kind.form = .unsupported
  · obtain ⟨what, hkind⟩ := Kind.form_eq_unsupported_iff.mp hform
    have hrule := h.kind
    rw [hkind] at hrule
    rw [Context.kindIssues, hkind] at hissue
    obtain rfl := List.mem_singleton.mp hissue
    exact hrule
  · rw [h.kindIssues_eq_nil hform] at hissue
    exact absurd hissue List.not_mem_nil

/-- **There is nothing to repair.** -/
theorem repair_eq (h : v.Conforms L default) :
    (Context.mk L v.above).repair v.decl = v.decl := by
  have hname : (Context.mk L v.above).repairedName v.decl = v.decl.name := by
    rw [Context.repairedName, h.newName?_eq_none, Option.getD_none]
  have hmetadata : (Context.mk L v.above).repairedMetadata v.decl = v.decl.metadata := by
    rw [Context.repairedMetadata, h.newName?_eq_none]
    dsimp only
    split
    · next f hkind => rw [h.losesErrorCode_eq_false hkind]; rfl
    · rfl
  have hkind : (Context.mk L v.above).repairedKind v.decl.kind = v.decl.kind := by
    cases hkind : v.decl.kind with
    | enumeration e =>
      rw [Context.repairedKind, (h.allowsEnum hkind).repairedLoose_eq]
    | parameter type value =>
      have hrule := h.kind
      rw [hkind] at hrule
      rw [Context.repairedKind, (Context.defaultIssues_eq_nil ⟨L, v.above⟩ hrule).2]
    | _ => rfl
  rw [Context.repair, hname, h.allowsLevel.repairedAccessibility_eq, hmetadata, hkind]
  exact Decl.eta v.decl

theorem needsContainer_eq_false (h : v.Conforms L default) :
    (Context.mk L v.above).needsContainer v.decl = false := by
  unfold Context.needsContainer
  split
  · next e hkind => exact (h.allowsEnum hkind).wrapsEnum_eq_false
  · rfl

theorem danglingIssues_eq_nil (h : v.Conforms L default)
    (hids : ∀ id, L.contains id = true → N.contains id = true) :
    N.danglingIssues v.decl = [] := by
  have hnone : (v.decl.kind.declRefs.filter fun ref => !N.contains ref.id) = [] := by
    refine List.filter_eq_nil_iff.mpr fun ref href => ?_
    have hfound := h.references ref href
    rw [Library.isSome_find?] at hfound
    rw [hids ref.id hfound]
    decide
  rw [Library.danglingIssues, Library.danglingNames, hnone]
  rfl

theorem settle_eq (h : v.Conforms L default)
    (hids : ∀ id, L.contains id = true → N.contains id = true) :
    (Context.mk L v.above).settle default N v.decl = v.decl := by
  have hcheck : (Context.mk L v.above).check default v.decl = v.decl := by
    rw [Context.check, h.repair_eq, Diagnostics.attachAll_eq_self h.records_issues]
    exact Decl.eta v.decl
  rw [Context.settle, hcheck, h.danglingIssues_eq_nil hids]
  exact Decl.eta v.decl

end Visit.Conforms

/-! ## Other children -/

/-- The rule for a record sees its members only by id and form. -/
theorem Record.LayoutClosed.of_continues {r : Record Decl} (h : r.LayoutClosed)
    {members : List Decl} (hmembers : List.Forall₂ Decl.Continues r.members members) :
    ({ r with members } : Record Decl).LayoutClosed := by
  refine ⟨h.paired, fun slot id hhandle => ?_⟩
  have hbefore : r.handle slot = some id := by
    cases slot <;> exact hhandle
  obtain ⟨m, hm, hid, hfills⟩ := h.names slot id hbefore
  obtain ⟨m', hm', hcontinues⟩ := Decl.exists_continues_of_mem hmembers hm
  exact ⟨m', hm', hcontinues.id.trans hid, (hcontinues.fills slot).trans hfills⟩

/-- Handles that name the right members are settled. -/
theorem Record.LayoutClosed.handlesSettled {r : Record Decl} (h : r.LayoutClosed)
    (hdistinct : (r.members.map Decl.id).Nodup) : (Kind.record r).HandlesSettled := by
  refine Kind.handlesSettled_record_iff.mpr fun slot => ?_
  cases hhandle : r.handle slot with
  | none => rfl
  | some id =>
    obtain ⟨m, hm, rfl, hfills⟩ := h.names slot id hhandle
    exact settledHandle_eq_self hdistinct hm hfills rfl

namespace Visit.Conforms

variable {above : List Decl} {d : Decl}

theorem handlesSettled (h : Visit.Conforms L default ⟨above, d⟩)
    (hdistinct : (d.children.map Decl.id).Nodup) : d.kind.HandlesSettled := by
  by_cases hform : d.kind.form = .record
  · obtain ⟨r, hkind⟩ := Kind.form_eq_record_iff.mp hform
    have hrule := h.kind
    rw [hkind] at hrule
    rw [Decl.children, hkind] at hdistinct
    rw [hkind]
    exact hrule.2.handlesSettled hdistinct
  · exact Kind.handlesSettled_of_ne_record hform

theorem withChildren (h : Visit.Conforms L default ⟨above, d⟩) {children : List Decl}
    (hchildren : d.kind.form = .record → List.Forall₂ Decl.Continues d.children children) :
    Visit.Conforms L default ⟨above, { d with kind := d.kind.withChildren children }⟩ := by
  obtain ⟨id, name, scope, accessibility, file, diagnostics, metadata, kind⟩ := d
  have hform : (kind.withChildren children).form = kind.form := kind.form_withChildren children
  refine ⟨h.unprotected, h.rootLevel, ?_, ?_, ?_, ?_⟩
  · rw [hform]
    exact h.parent
  · rw [hform]
    exact h.named
  · unfold Kind.declRefs
    rw [Kind.type?_withChildren]
    exact h.references
  · cases kind with
    | record r => exact ⟨h.kind.1, h.kind.2.of_continues (hchildren rfl)⟩
    | _ => exact h.kind

end Visit.Conforms

/-! ## The verified library -/

/-- A declaration that conforms settles as it is, apart from its children. -/
theorem Settles.eq_of_conforms {above : List Decl} {d d' : Decl}
    (h : Settles default L N above d d') (hconforms : Visit.Conforms L default ⟨above, d⟩)
    (hdistinct : (d.children.map Decl.id).Nodup)
    (hids : ∀ id, L.contains id = true → N.contains id = true) :
    d' = { d with kind := d.kind.withChildren d'.children } := by
  obtain ⟨parts, hparts, hsettled⟩ := h.exists_parts
  have hchildren : d'.children = parts.map SettledPart.result := by
    rw [hsettled, hparts.children_settle]
  have hrebuilt : d.withSettled d'.children
      = { d with kind := d.kind.withChildren d'.children } := by
    rw [Decl.withSettled]
    exact congrArg (fun k : Kind Decl => { d with kind := k.withChildren d'.children })
      (hconforms.handlesSettled hdistinct)
  have hcontinues := h.forall₂_continues
  rw [← hchildren, hrebuilt] at hsettled
  exact hsettled.trans ((hconforms.withChildren hcontinues).settle_eq hids)

theorem contains_verify_of_contains (default : CallingConvention) (L : Library) {id : DeclId}
    (hid : L.contains id = true) : (verify default L).contains id = true := by
  obtain ⟨d, hd, rfl⟩ := Library.mem_ids_iff.mp ((L.contains_iff id).mp hid)
  obtain ⟨v, hv, rfl⟩ := Library.mem_decls_iff.mp hd
  obtain ⟨v', hv', hcounter⟩ := exists_counterpart default L v hv
  rw [Library.contains_iff, Library.mem_ids_iff]
  refine ⟨v'.decl, ?_, hcounter.continues.id⟩
  exact Library.mem_decls_iff.mpr ⟨v', hv', rfl⟩

/-- **Verification raises no false alarm.**  What the verified library has under the id of a
declaration that conforms is that declaration, as it was apart from its children, inside what was
around it before. -/
theorem verify_keeps_conforming (default : CallingConvention) (L : Library) (h : L.TreeIdsSound)
    {v : Visit} (hv : v ∈ L.visits) (hconforms : v.Conforms L default) :
    ∃ v' ∈ (verify default L).visits, (verify default L).find? v.decl.id = some v'.decl ∧
      v'.decl = { v.decl with kind := v.decl.kind.withChildren v'.decl.children } ∧
      v'.parent?.map Decl.id = v.parent?.map Decl.id := by
  obtain ⟨v', hv', hcounter⟩ := exists_counterpart default L v hv
  refine ⟨v', hv', ?_, ?_, ?_⟩
  · refine (Library.find?_eq_some_iff (h.verify default).distinct).mpr ⟨?_, hcounter.continues.id⟩
    exact Library.mem_decls_iff.mpr ⟨v', hv', rfl⟩
  · have hdistinct : (v.decl.children.map Decl.id).Nodup :=
      Library.siblingIdsDistinct_of_nodup h.distinct v.decl (Library.mem_decls_iff.mpr ⟨v, hv, rfl⟩)
    exact hcounter.settles.eq_of_conforms hconforms hdistinct fun _ hid =>
      contains_verify_of_contains default L hid
  · have hseen := congrArg (Option.map Prod.fst)
      (hcounter.parent_of_not_wrapped hconforms.needsContainer_eq_false)
    rwa [Option.map_map, Option.map_map] at hseen

/-- The bitfield of the sample conforms, while the enum that its type refers to gets a container
and a field next to it gets another name. -/
theorem verify_keeps_conforming_sample : ∃ v ∈ Sample.library.visits, v.decl.name = "Mode" ∧
    Sample.library.TreeIdsSound ∧ v.Conforms Sample.library .c ∧
    ∃ v' ∈ (verify .c Sample.library).visits,
      (verify .c Sample.library).find? v.decl.id = some v'.decl ∧
      v'.decl = { v.decl with kind := v.decl.kind.withChildren v'.decl.children } ∧
      v'.parent?.map Decl.id = v.parent?.map Decl.id := by
  have h : Sample.library.TreeIdsSound := ⟨by decide +kernel, by decide +kernel⟩
  obtain ⟨v, hv, hname, hlevel, hparent, hparentName, hrefs, hform, htype⟩ :
      ∃ v ∈ Sample.library.visits, v.decl.name = "Mode" ∧ v.decl.accessibility = .publicAccess ∧
        v.parentForm? = some .record ∧ v.parent?.map Decl.name = some "Widget" ∧
        (∀ ref ∈ v.decl.kind.declRefs, (Sample.library.find? ref.id).isSome = true) ∧
        v.decl.kind.form = .field .bits ∧
        v.decl.kind.type?.map Sample.library.isBitFieldType = some true := by decide +kernel
  have hconforms : v.Conforms Sample.library .c := by
    obtain ⟨offset, start, width, type, hkind⟩ := Kind.form_eq_field_bits_iff.mp hform
    refine ⟨by rw [hlevel]; rfl, fun _ => .inl hlevel, ?_, ?_, hrefs, ?_⟩
    · rw [hform]
      exact .inl hparent
    · intro _ p hp _ hsame
      rw [hp, Option.map_some, ← hsame, hname] at hparentName
      exact absurd hparentName (by decide)
    · rw [hkind] at htype ⊢
      exact Option.some.inj htype
  exact ⟨v, hv, hname, h, hconforms, verify_keeps_conforming .c Sample.library h hv hconforms⟩

end NativeApi

import NativeApi.Proofs.Verify.Placement

/-!
# The types of verified declarations

`Visit.Representable` says what the target needs of the types that a declaration uses: a real enum
is an integer of fixed width and loose constants have something around them, a default that remains
is a number on a type that allows one, a bitfield has the type of a bitfield, and every reference
leads to a declaration.

Verification judges types by the library before.  The verified library judges them alike
(`sameTypes_verify`), so what was found there holds here (`verify_representable`); the references
are looked up in the verified library from the start.

* `Context.representable_settle`: what holds of one settled declaration, wherever it came to stand.
-/

namespace NativeApi

variable {default : CallingConvention} {L N : Library}

/-! ## The types that a declaration may use -/

def Constant.IsNumber : Constant → Prop
  | integer _ | float _ => True
  | string _ | unsupported _ => False

/-- What a declaration in its place uses of types can be represented, where the types are looked up
in a library. -/
structure Visit.Representable (M : Library) (v : Visit) : Prop where
  realEnum : ∀ e, v.decl.kind = .enumeration e → e.isLoose = false →
    ∃ s, M.reduceTypedefs e.type = .scalar s ∧ s.isFixedWidthInteger = true
  looseEnum : ∀ e, v.decl.kind = .enumeration e → e.isLoose = true →
    v.parentForm? = some .record ∨ v.parentForm? = some (.container .looseDeclarations)
  parameterDefault : ∀ type value, v.decl.kind = .parameter type (some value) →
    value.IsNumber ∧ M.allowsDefault type = true
  bitField : v.decl.hasErrors = false → ∀ offset start width type,
    v.decl.kind = .field offset (.bits start width type) → M.isBitFieldType type = true
  references : v.decl.hasErrors = false → ∀ ref ∈ v.decl.kind.declRefs,
    (M.find? ref.id).isSome = true

namespace Library

theorem isEnumType_iff {M : Library} {type : TypeRef} : M.isEnumType type = true ↔
    ∃ s, M.reduceTypedefs type = .scalar s ∧ s.isFixedWidthInteger = true := by
  unfold isEnumType
  cases M.reduceTypedefs type <;> simp

theorem unresolvedReference_mem_danglingIssues {M : Library} {d : Decl} {ref : DeclRef}
    (href : ref ∈ d.kind.declRefs) (h : M.contains ref.id = false) :
    .unresolvedReference ref.name ∈ M.danglingIssues d := by
  refine List.mem_map_of_mem (List.mem_eraseDups.mpr (List.mem_map_of_mem ?_))
  rw [List.mem_filter, h]
  exact ⟨href, rfl⟩

end Library

/-! ## Settled declarations -/

namespace Context

variable {ctx : Context} {d : Decl}

theorem exists_enumeration_of_repairedKind {k : Kind Decl} {e' : Enumeration Decl}
    (h : ctx.repairedKind k = .enumeration e') :
    ∃ e, k = .enumeration e ∧ e' = { e with isLoose := ctx.repairedLoose e } := by
  cases k with
  | enumeration e => exact ⟨e, rfl, (Kind.enumeration.inj h).symm⟩
  | _ => exact absurd h nofun

theorem isNumber_of_repairedKind {k : Kind Decl} {type : TypeRef} {value : Constant}
    (h : ctx.repairedKind k = .parameter type (some value)) :
    value.IsNumber ∧ ctx.library.allowsDefault type = true := by
  cases k with
  | parameter type' before =>
    obtain ⟨rfl, hvalue⟩ := Kind.parameter.inj h
    unfold repairedDefault at hvalue
    rcases before with _ | number | number | text | spelling
    case none => exact absurd hvalue nofun
    case some.string => exact absurd hvalue nofun
    case some.unsupported => exact absurd hvalue nofun
    all_goals
      dsimp only at hvalue
      split at hvalue
      · next hallowed =>
        obtain rfl := Option.some.inj hvalue
        exact ⟨trivial, hallowed⟩
      · exact absurd hvalue nofun
  | _ => exact absurd h nofun

theorem isBitFieldType_of_settle (hclean : (ctx.settle default N d).hasErrors = false)
    {offset start width : Nat} {type : TypeRef}
    (hkind : (ctx.settle default N d).kind = .field offset (.bits start width type)) :
    ctx.library.isBitFieldType type = true := by
  have hbefore : d.kind = .field offset (.bits start width type) :=
    kind_of_repairedKind nofun nofun hkind
  by_contra hinvalid
  refine severity_ne_of_settle hclean (.invalidBitFieldType type)
    (List.mem_append_left _ (List.mem_append_right _ ?_)) rfl
  rw [kindIssues, hbefore]
  refine List.mem_append_right _ ?_
  rw [contentIssues, if_neg hinvalid]
  exact List.mem_singleton_self _

theorem contains_of_settle (hclean : (ctx.settle default N d).hasErrors = false)
    {ref : DeclRef} (href : ref ∈ (ctx.settle default N d).kind.declRefs) :
    N.contains ref.id = true := by
  have hbefore : ref ∈ d.kind.declRefs := ctx.declRefs_check default d ▸ href
  by_contra hdangling
  rw [Bool.not_eq_true] at hdangling
  exact severity_ne_of_settle hclean (.unresolvedReference ref.name)
    (List.mem_append_right _ (Library.unresolvedReference_mem_danglingIssues hbefore hdangling)) rfl

/-- **A settled declaration uses types that can be represented**, in a place that kept what its old
place had around it. -/
theorem representable_settle (default : CallingConvention) {above : List Decl}
    (htypes : SameTypes ctx.library N) (h : ctx.Precedes ⟨N, above⟩ d) :
    Visit.Representable N ⟨above, ctx.settle default N d⟩ := by
  constructor
  case realEnum =>
    intro e' hkind hreal
    obtain ⟨e, hbefore, rfl⟩ := exists_enumeration_of_repairedKind hkind
    exact Library.isEnumType_iff.mp ((h.allowsEnum htypes hbefore).real hreal)
  case looseEnum =>
    intro e' hkind hloose
    obtain ⟨e, hbefore, rfl⟩ := exists_enumeration_of_repairedKind hkind
    exact hostsMembers_iff.mp ((h.allowsEnum htypes hbefore).loose hloose)
  case parameterDefault =>
    intro type value hkind
    rw [htypes.allowsDefault]
    exact isNumber_of_repairedKind hkind
  case bitField =>
    intro hclean offset start width type hkind
    rw [htypes.isBitFieldType]
    exact isBitFieldType_of_settle hclean hkind
  case references =>
    intro hclean ref href
    rw [Library.isSome_find?]
    exact contains_of_settle hclean href

end Context

/-! ## The verified library -/

theorem Enclosure.representable {v v' : Visit} (h : Enclosure default L N v v') :
    v'.Representable N := by
  cases h
  exact ⟨nofun, nofun, nofun, fun _ => nofun, fun _ => nofun⟩

/-- **Verified types can be represented.** -/
theorem verify_representable (default : CallingConvention) (L : Library) (h : L.TreeIdsSound) :
    ∀ v ∈ (verify default L).visits, v.Representable (verify default L) := by
  have htypes := sameTypes_verify h default
  have hdistinct := Library.siblingIdsDistinct_of_nodup h.distinct
  intro v' hv'
  obtain ⟨v, hv, hcounter | henclosure⟩ := mem_visits_verify default L v' hv'
  · obtain ⟨parts, _, hsettled⟩ := hcounter.settles.exists_parts
    have hprecedes := (hcounter.precedes (M := verify default L) hdistinct hv).withSettled
      (parts.map SettledPart.result)
    have := Context.representable_settle default htypes hprecedes
    rwa [← hsettled] at this
  · exact henclosure.representable

theorem verify_representable_sample : Sample.library.TreeIdsSound ∧
    ∃ v ∈ (verify .c Sample.library).visits, v.decl.name = "Mode" ∧ v.decl.hasErrors = false ∧
      v.Representable (verify .c Sample.library) := by
  have h : Sample.library.TreeIdsSound := ⟨by decide +kernel, by decide +kernel⟩
  obtain ⟨v, hv, hname, hclean⟩ : ∃ v ∈ (verify .c Sample.library).visits,
      v.decl.name = "Mode" ∧ v.decl.hasErrors = false := by decide +kernel
  exact ⟨h, v, hv, hname, hclean, verify_representable .c Sample.library h v hv⟩

end NativeApi

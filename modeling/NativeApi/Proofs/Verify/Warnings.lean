import NativeApi.Proofs.Library.Agreement
import NativeApi.Proofs.Verify.Check

/-!
# The warning about a calling convention

The default calling convention has one effect on the findings about a declaration: a function with
an arrangement gets a certain warning or does not get it (`Context.exists_issues_eq`).  The warning
stands among the other findings, so what is attached after it is attached to another list.  That
makes no difference: no other finding reads the same, and a fallback looks at errors only.

* `Arrangement.conventionWarning`: the warning.
* `Arrangement.mem_otherIssues_cases`: what else is found about an arrangement.
* `Diagnostics.HasExtra`: one list has one entry more than another.
* `Tolerance.convention`: the warning may be there or not.
* `Tolerance.convention_attachAll`: attaching findings for two defaults gives no other difference.
* `Tolerance.errors`: the errors are the same; that is what extraction and emission go by.
-/

namespace NativeApi

/-! ## Texts -/

def BeginsWith (opening text : String) : Prop := opening.toList <+: text.toList

instance (opening text : String) : Decidable (BeginsWith opening text) :=
  inferInstanceAs (Decidable (opening.toList <+: text.toList))

namespace BeginsWith

theorem refl (text : String) : BeginsWith text text := List.prefix_refl _

theorem append {opening text : String} (h : BeginsWith opening text) (rest : String) :
    BeginsWith opening (text ++ rest) := by
  rw [BeginsWith, String.toList_append]
  exact h.trans (List.prefix_append _ _)

theorem ne {opening opening' text text' : String} (h : BeginsWith opening text)
    (h' : BeginsWith opening' text')
    (hdiffer : ¬ (opening.toList <+: opening'.toList ∨ opening'.toList <+: opening.toList)) :
    text ≠ text' := by
  rintro rfl
  exact hdiffer (List.prefix_or_prefix_of_prefix h h')

end BeginsWith

/-! ## The warning -/

/-- The warning about the convention of an arrangement. -/
def Arrangement.conventionWarning (a : Arrangement) : Diagnostic :=
  (Issue.nonDefaultConvention a.convention a.effective).diagnostic

theorem Arrangement.conventionIssues_eq_nil_or (a : Arrangement) (default : CallingConvention) :
    a.conventionIssues default = [] ∨
      a.conventionIssues default = [.nonDefaultConvention a.convention a.effective] := by
  rw [conventionIssues]
  split
  · exact .inl rfl
  · exact .inr rfl

/-- The findings about the convention of a function that has an arrangement. -/
def Kind.conventionIssues {δ : Type} (k : Kind δ) (default : CallingConvention) : List Issue :=
  match k.arrangement? with
  | some a => a.conventionIssues default
  | none => []

theorem Issue.beginsWith_nonDefaultConvention (convention effective : CallingConvention) :
    BeginsWith "function uses the " (nonDefaultConvention convention effective).message :=
  ((((BeginsWith.refl _).append _).append _).append _).append _

/-- The words for an argument begin in one of two ways. -/
theorem Callable.beginsWith_argumentName (f : Callable Decl) (functionName : String)
    (index : Nat) :
    BeginsWith "this pointer parameter" (f.argumentName functionName index) ∨
      BeginsWith "parameter #" (f.argumentName functionName index) := by
  unfold argumentName
  by_cases hreceiver : (f.isInstance && index = 0) = true
  · rw [if_pos hreceiver]
    exact .inl (.refl _)
  · rw [if_neg hreceiver]
    generalize (if f.isInstance then index - 1 else index) = position
    dsimp only
    split <;> exact .inr ((((BeginsWith.refl _).append _).append _).append _)

/-- The findings about an arrangement, apart from the convention. -/
def Arrangement.otherIssues (a : Arrangement) (nameOf : Nat → String) : List Issue :=
  a.declaredIssues ++ (if a.usesInAlloca then [.inAllocaArguments] else [])
    ++ (if a.hasExtendedInfo then [.extendedInfo] else [])
    ++ (if a.result.isExpanded then [.expandedResult a.result] else [])
    ++ a.argumentIssues nameOf

theorem Arrangement.issues_eq (a : Arrangement) (default : CallingConvention)
    (nameOf : Nat → String) :
    a.issues default nameOf = a.conventionIssues default ++ a.otherIssues nameOf := by
  simp only [issues, otherIssues, List.append_assoc]

theorem Arrangement.mem_otherIssues_cases {a : Arrangement} {nameOf : Nat → String} {issue : Issue}
    (h : issue ∈ a.otherIssues nameOf) :
    (∃ spelling, a.declared = .unrecognized spelling ∧
      issue = .unrecognizedConvention spelling) ∨
    (a.usesInAlloca = true ∧ issue = .inAllocaArguments) ∨
    (a.hasExtendedInfo = true ∧ issue = .extendedInfo) ∨
    (a.result.isExpanded = true ∧ issue = .expandedResult a.result) ∨
    ∃ passed index, a.arguments[index]? = some passed ∧ passed.isExpanded = true ∧
      issue = .expandedArgument (nameOf index) passed := by
  rw [otherIssues, List.mem_append, List.mem_append, List.mem_append, List.mem_append] at h
  rcases h with (((hdeclared | hinAlloca) | hextended) | hresult) | hargument
  · rw [declaredIssues] at hdeclared
    split at hdeclared
    · exact absurd hdeclared List.not_mem_nil
    · next spelling hspelling => exact .inl ⟨spelling, hspelling, List.mem_singleton.mp hdeclared⟩
  · obtain ⟨huses, hissue⟩ := List.mem_ite_nil_right.mp hinAlloca
    exact .inr (.inl ⟨huses, List.mem_singleton.mp hissue⟩)
  · obtain ⟨hinfo, hissue⟩ := List.mem_ite_nil_right.mp hextended
    exact .inr (.inr (.inl ⟨hinfo, List.mem_singleton.mp hissue⟩))
  · obtain ⟨hexpanded, hissue⟩ := List.mem_ite_nil_right.mp hresult
    exact .inr (.inr (.inr (.inl ⟨hexpanded, List.mem_singleton.mp hissue⟩)))
  · obtain ⟨⟨passed, index⟩, hat, hissue⟩ := List.mem_filterMap.mp hargument
    obtain ⟨hexpanded, hissue⟩ := Option.ite_none_right_eq_some.mp hissue
    have hpassed : a.arguments[index]? = some passed := List.mk_mem_zipIdx_iff_getElem?.mp hat
    exact .inr (.inr (.inr (.inr
      ⟨passed, index, hpassed, hexpanded, (Option.some.inj hissue).symm⟩)))

theorem Arrangement.diagnostic_ne {a : Arrangement} {f : Callable Decl} {name : String}
    {issue : Issue} (h : issue ∈ a.otherIssues (f.argumentName name)) :
    issue.diagnostic ≠ a.conventionWarning := by
  have hwarning := Issue.beginsWith_nonDefaultConvention a.convention a.effective
  suffices hmessage : issue.message
      ≠ (Issue.nonDefaultConvention a.convention a.effective).message from
    fun heq => hmessage (congrArg Diagnostic.message heq)
  obtain ⟨spelling, _, rfl⟩ | ⟨_, rfl⟩ | ⟨_, rfl⟩ | ⟨_, rfl⟩ | ⟨passed, index, _, _, rfl⟩ :=
    mem_otherIssues_cases h
  · exact ((BeginsWith.refl "function uses unrecognized calling convention ").append _).ne
      hwarning (by decide)
  · exact (BeginsWith.refl _).ne hwarning (by decide +kernel)
  · exact (BeginsWith.refl _).ne hwarning (by decide +kernel)
  · exact (((BeginsWith.refl "return value is passed via ").append _).append _).ne hwarning
      (by decide)
  · rcases f.beginsWith_argumentName name index with hname | hname
    · exact (((hname.append _).append _).append _).ne hwarning (by decide)
    · exact (((hname.append _).append _).append _).ne hwarning (by decide)

/-! ## Findings about a declaration -/

namespace Context

variable (ctx : Context) (d : Decl)

theorem issues_of_no_arrangement {d : Decl} (h : d.kind.arrangement? = none)
    (default default' : CallingConvention) : ctx.issues default d = ctx.issues default' d := by
  have hkind : ctx.kindIssues default d = ctx.kindIssues default' d := by
    unfold kindIssues
    revert h
    cases d.kind with
    | function f =>
      intro h
      have harrangement : f.arrangement = none := h
      simp only [functionIssues, harrangement]
    | _ => exact fun _ => rfl
  rw [issues, issues, hkind]

/-- **The default convention has one effect on the findings**: the one about the convention is
among them or is not. -/
theorem exists_issues_eq : ∃ before after,
    (∀ default, ctx.issues default d = before ++ (d.kind.conventionIssues default ++ after)) ∧
    ∀ a ∈ d.kind.arrangement?, ∀ issue ∈ after, issue.diagnostic ≠ a.conventionWarning := by
  cases harrangement : d.kind.arrangement? with
  | none =>
    refine ⟨ctx.issues .c d, [], fun default => ?_, fun _ h => absurd h (Option.not_mem_none _)⟩
    rw [Kind.conventionIssues, harrangement, List.append_nil, List.append_nil]
    exact ctx.issues_of_no_arrangement harrangement default .c
  | some a =>
    obtain ⟨f, hkind, hf⟩ : ∃ f, d.kind = .function f ∧ f.arrangement = some a := by
      revert harrangement
      cases d.kind with
      | function f => exact fun h => ⟨f, rfl, h⟩
      | _ => exact nofun
    refine ⟨ctx.accessibilityIssues d ++ ((if ctx.hostsMembers then [] else [.functionMisplaced])
      ++ if losesErrorCode d f then [.virtualSetLastError] else []),
      a.otherIssues (f.argumentName d.name), fun default => ?_, ?_⟩
    · rw [Kind.conventionIssues, harrangement, issues, kindIssues, hkind]
      simp only [functionIssues, hf, Arrangement.issues_eq, List.append_assoc]
    · intro a' ha' issue hissue
      obtain rfl := Option.mem_some_iff.mp ha'
      exact Arrangement.diagnostic_ne hissue

end Context

/-! ## Errors -/

theorem Issue.isError_diagnostic (issue : Issue) :
    issue.diagnostic.isError = decide (issue.severity = .error) := rfl

theorem Issue.attach_of_not_records {ds : Diagnostics} {issue : Issue} (h : ¬ ds.Records issue) :
    issue.attach ds = ds ++ [issue.diagnostic] := by
  rw [Diagnostics.Records] at h
  rw [attach]
  split at h
  · next hfallback =>
    rw [if_pos hfallback, Diagnostics.ensureAnyError, if_neg h, diagnostic,
      severity_of_isFallback hfallback]
  · next hother => rw [if_neg hother, Diagnostics.ensure, if_neg h]

namespace Diagnostics

def errors (ds : Diagnostics) : Diagnostics := ds.filter Diagnostic.isError

theorem hasErrors_errors (ds : Diagnostics) : ds.errors.hasErrors = ds.hasErrors := by
  rw [hasErrors, errors, List.any_filter, hasErrors]
  exact List.any_congr rfl fun d => Bool.and_self d.isError

theorem hasErrors_congr {ds ds' : Diagnostics} (h : ds'.errors = ds.errors) :
    ds'.hasErrors = ds.hasErrors := by
  rw [← hasErrors_errors ds', h, hasErrors_errors]

/-- Among the errors an error shows just if it shows at all. -/
theorem records_errors_iff {ds : Diagnostics} {issue : Issue} (h : issue.severity = .error) :
    ds.errors.Records issue ↔ ds.Records issue := by
  unfold Records
  split
  · rw [hasErrors_errors]
  · rw [errors, List.mem_filter]
    exact and_iff_left (decide_eq_true h)

theorem errors_attach_error (ds : Diagnostics) {issue : Issue} (h : issue.severity = .error) :
    errors (issue.attach ds) = issue.attach ds.errors := by
  by_cases hrecords : ds.Records issue
  · rw [hrecords.attach_eq, ((records_errors_iff h).mpr hrecords).attach_eq]
  · rw [Issue.attach_of_not_records hrecords,
      Issue.attach_of_not_records fun h' => hrecords ((records_errors_iff h).mp h'), errors,
      List.filter_append,
      List.filter_cons_of_pos (issue.isError_diagnostic.trans (decide_eq_true h))]
    rfl

theorem errors_attach_other (ds : Diagnostics) {issue : Issue} (h : issue.severity ≠ .error) :
    errors (issue.attach ds) = ds.errors := by
  by_cases hrecords : ds.Records issue
  · rw [hrecords.attach_eq]
  · rw [Issue.attach_of_not_records hrecords, errors, List.filter_append,
      List.filter_cons_of_neg (by rw [issue.isError_diagnostic]; simpa using h), List.filter_nil,
      List.append_nil]
    rfl

/-- **Errors come from errors, in their order.** -/
theorem errors_attachAll (ds : Diagnostics) (issues : List Issue) :
    errors (Issue.attachAll ds issues)
      = Issue.attachAll ds.errors (issues.filter (·.severity = .error)) := by
  induction issues generalizing ds with
  | nil => rfl
  | cons issue issues ih =>
    show errors (Issue.attachAll (issue.attach ds) issues) = _
    rw [ih]
    by_cases h : issue.severity = .error
    · rw [errors_attach_error ds h, List.filter_cons_of_pos (by simpa using h)]
      rfl
    · rw [errors_attach_other ds h, List.filter_cons_of_neg (by simpa using h)]

end Diagnostics

/-! ## One entry more -/

namespace Diagnostics

/-- A list has one entry more than another one, which does not have that entry. -/
def HasExtra (extra : Diagnostic) (ds ds' : Diagnostics) : Prop :=
  ∃ before after, ds = before ++ extra :: after ∧ ds' = before ++ after ∧ extra ∉ ds'

namespace HasExtra

variable {extra : Diagnostic} {ds ds' : Diagnostics}

theorem of_append (h : extra ∉ ds) : HasExtra extra (ds ++ [extra]) ds :=
  ⟨ds, [], rfl, (List.append_nil ds).symm, h⟩

theorem append (h : HasExtra extra ds ds') {x : Diagnostic} (hx : x ≠ extra) :
    HasExtra extra (ds ++ [x]) (ds' ++ [x]) := by
  obtain ⟨before, after, rfl, rfl, hnew⟩ := h
  refine ⟨before, after ++ [x], by simp, by simp, fun hmem => ?_⟩
  rcases List.mem_append.mp hmem with hold | hlast
  · exact hnew hold
  · exact hx (List.mem_singleton.mp hlast).symm

variable (h : HasExtra extra ds ds') (hextra : extra.isError = false)

include h hextra

theorem errors_eq : ds'.errors = ds.errors := by
  obtain ⟨before, after, rfl, rfl, -⟩ := h
  rw [errors, errors, List.filter_append, List.filter_append,
    List.filter_cons_of_neg (by rw [hextra]; decide)]

theorem records_iff {issue : Issue} (hissue : issue.diagnostic ≠ extra) :
    ds.Records issue ↔ ds'.Records issue := by
  unfold Records
  split
  · rw [hasErrors_congr (h.errors_eq hextra)]
  · obtain ⟨before, after, rfl, rfl, -⟩ := h
    simp [hissue]

theorem attach {issue : Issue} (hissue : issue.diagnostic ≠ extra) :
    HasExtra extra (issue.attach ds) (issue.attach ds') := by
  by_cases hrecords : ds.Records issue
  · rwa [hrecords.attach_eq, ((h.records_iff hextra hissue).mp hrecords).attach_eq]
  · rw [Issue.attach_of_not_records hrecords,
      Issue.attach_of_not_records fun h' => hrecords ((h.records_iff hextra hissue).mpr h')]
    exact h.append hissue

/-- **Attaching other findings keeps the difference.** -/
theorem attachAll {issues : List Issue} (hissues : ∀ issue ∈ issues, issue.diagnostic ≠ extra) :
    HasExtra extra (Issue.attachAll ds issues) (Issue.attachAll ds' issues) := by
  induction issues generalizing ds ds' with
  | nil => exact h
  | cons issue issues ih =>
    obtain ⟨hissue, hissues⟩ := List.forall_mem_cons.mp hissues
    exact ih (h.attach hextra hissue) hissues

end HasExtra

end Diagnostics

/-! ## Tolerances -/

namespace Tolerance

def same : Tolerance := fun _ ds ds' => ds' = ds

/-- The diagnostics are the same, except that the warning about the convention of the arrangement
may be there or not. -/
def convention : Tolerance := fun a? ds ds' =>
  ds' = ds ∨ ∃ a ∈ a?, ds.HasExtra a.conventionWarning ds' ∨ ds'.HasExtra a.conventionWarning ds

def errors : Tolerance := fun _ ds ds' => ds'.errors = ds.errors

theorem same_refl (a? : Option Arrangement) (ds : Diagnostics) : same a? ds ds := rfl

theorem convention_refl (a? : Option Arrangement) (ds : Diagnostics) : convention a? ds ds :=
  .inl rfl

theorem errors_refl (a? : Option Arrangement) (ds : Diagnostics) : errors a? ds ds := rfl

variable {a? : Option Arrangement} {ds ds' : Diagnostics}

theorem convention_of_same (h : same a? ds ds') : convention a? ds ds' := .inl h

theorem errors_of_convention (h : convention a? ds ds') : errors a? ds ds' := by
  rcases h with rfl | ⟨a, _, hextra | hextra⟩
  · exact rfl
  · exact hextra.errors_eq rfl
  · exact (hextra.errors_eq rfl).symm

/-- Findings that do not read like the warning are attached to both lists alike. -/
theorem convention_attachAll {issues : List Issue}
    (hissues : ∀ a ∈ a?, ∀ issue ∈ issues, issue.diagnostic ≠ a.conventionWarning)
    (h : convention a? ds ds') :
    convention a? (Issue.attachAll ds issues) (Issue.attachAll ds' issues) := by
  rcases h with rfl | ⟨a, ha, hextra | hextra⟩
  · exact .inl rfl
  · exact .inr ⟨a, ha, .inl (hextra.attachAll rfl (hissues a ha))⟩
  · exact .inr ⟨a, ha, .inr (hextra.attachAll rfl (hissues a ha))⟩

theorem errors_attachAll (h : errors a? ds ds') (issues : List Issue) :
    errors a? (Issue.attachAll ds issues) (Issue.attachAll ds' issues) := by
  rw [errors, Diagnostics.errors_attachAll, Diagnostics.errors_attachAll]
  exact congrArg (Issue.attachAll · _) h

/-- The finding about the convention makes no other difference than the warning. -/
theorem convention_attachAll_conventionIssues {δ : Type} (k : Kind δ) (ds : Diagnostics)
    (default default' : CallingConvention) :
    convention k.arrangement? (Issue.attachAll ds (k.conventionIssues default))
      (Issue.attachAll ds (k.conventionIssues default')) := by
  unfold Kind.conventionIssues
  cases k.arrangement? with
  | none => exact .inl rfl
  | some a =>
    let issue : Issue := .nonDefaultConvention a.convention a.effective
    have hattach : convention (some a) ds (issue.attach ds) ∧
        convention (some a) (issue.attach ds) ds := by
      by_cases hmem : a.conventionWarning ∈ ds
      · have hsame : issue.attach ds = ds := Diagnostics.ensure_of_mem hmem
        rw [hsame]
        exact ⟨.inl rfl, .inl rfl⟩
      · have hmore : issue.attach ds = ds ++ [a.conventionWarning] :=
          Issue.attach_of_not_records hmem
        rw [hmore]
        exact ⟨.inr ⟨a, rfl, .inr (.of_append hmem)⟩, .inr ⟨a, rfl, .inl (.of_append hmem)⟩⟩
    rcases a.conventionIssues_eq_nil_or default with h | h <;>
      rcases a.conventionIssues_eq_nil_or default' with h' | h' <;> dsimp only <;> rw [h, h']
    · exact .inl rfl
    · exact hattach.1
    · exact hattach.2
    · exact .inl rfl

/-- **Checks for two defaults attach the same**, except for the warning about the convention. -/
theorem convention_attachAll_issues (ctx : Context) (d : Decl) (ds : Diagnostics)
    (default default' : CallingConvention) :
    convention d.kind.arrangement? (Issue.attachAll ds (ctx.issues default d))
      (Issue.attachAll ds (ctx.issues default' d)) := by
  obtain ⟨before, after, hissues, hafter⟩ := ctx.exists_issues_eq d
  rw [hissues, hissues, Issue.attachAll_append, Issue.attachAll_append,
    Issue.attachAll_append, Issue.attachAll_append]
  exact convention_attachAll hafter (convention_attachAll_conventionIssues d.kind _ _ _)

theorem errors_attachAll_issues (ctx : Context) (d : Decl) (h : errors d.kind.arrangement? ds ds')
    (default default' : CallingConvention) :
    errors d.kind.arrangement? (Issue.attachAll ds (ctx.issues default d))
      (Issue.attachAll ds' (ctx.issues default' d)) := by
  have hother : errors d.kind.arrangement? (Issue.attachAll ds' (ctx.issues default d))
      (Issue.attachAll ds' (ctx.issues default' d)) :=
    errors_of_convention (convention_attachAll_issues ctx d ds' default default')
  exact hother.trans (errors_attachAll h _)

end Tolerance

end NativeApi

import NativeApi.Proofs.Verify.Designation
import NativeApi.Proofs.Verify.Warnings

/-!
# Errors about places

Four findings say that a declaration is in the wrong place.  None of them is made about a function
or a static field inside a record or a container of loose declarations, and none of the other
findings about these could be mistaken for one: only two of them are errors, and their wordings end
differently.

* `Issue.isMisplacement`: the four findings.
* `EndsWith`: how wordings are told apart, whatever names they contain.
* `Settles.mem_diagnostics_of_isMisplacement`: **verification attaches no error about the place of a
  declaration that may be there**.
-/

namespace NativeApi

/-! ## Texts -/

def EndsWith (ending text : String) : Prop := ending.toList <:+ text.toList

namespace EndsWith

theorem append (first ending : String) : EndsWith ending (first ++ ending) := by
  rw [EndsWith, String.toList_append]
  exact List.suffix_append _ _

theorem ne {ending ending' text text' : String} (h : EndsWith ending text)
    (h' : EndsWith ending' text')
    (hdiffer : ¬ (ending.toList <:+ ending'.toList ∨ ending'.toList <:+ ending.toList)) :
    text ≠ text' := by
  rintro rfl
  exact hdiffer (List.suffix_or_suffix_of_suffix h h')

end EndsWith

/-! ## Findings about places -/

namespace Issue

/-- The findings that a declaration is not where one of its kind may be. -/
def isMisplacement : Issue → Bool
  | enumConstantOutsideEnum | functionMisplaced | parameterOutsideFunction | fieldMisplaced _ =>
    true
  | _ => false

theorem severity_of_isMisplacement {issue : Issue} (h : issue.isMisplacement = true) :
    issue.severity = .error := by
  cases issue <;> first | rfl | exact absurd h Bool.false_ne_true

theorem endsWith_of_isMisplacement {issue : Issue} (h : issue.isMisplacement = true) :
    EndsWith "children of an enum" issue.message
      ∨ EndsWith "members of a record or a loose-declarations container" issue.message
      ∨ EndsWith "children of a function" issue.message := by
  cases issue with
  | enumConstantOutsideEnum => exact .inl (EndsWith.append "enum constants must be " _)
  | functionMisplaced => exact .inr (.inl (EndsWith.append "functions must be " _))
  | parameterOutsideFunction => exact .inr (.inr (EndsWith.append "parameters must be " _))
  | fieldMisplaced kindName =>
    refine .inr (.inl ?_)
    have hmessage : (fieldMisplaced kindName).message = (kindName ++ "s must be ")
        ++ "members of a record or a loose-declarations container" := by
      rw [String.append_assoc]
      rfl
    rw [hmessage]
    exact EndsWith.append _ _
  | _ => exact absurd h Bool.false_ne_true

theorem message_ne_of_isMisplacement {issue : Issue} (h : issue.isMisplacement = true)
    {ending text : String} (htext : EndsWith ending text)
    (hdiffer : ∀ other ∈ ["children of an enum",
      "members of a record or a loose-declarations container", "children of a function"],
      ¬ (ending.toList <:+ other.toList ∨ other.toList <:+ ending.toList)) :
    text ≠ issue.message := by
  rcases endsWith_of_isMisplacement h with hend | hend | hend
  all_goals exact htext.ne hend (hdiffer _ (by simp))

end Issue

/-! ## Findings about functions and static fields -/

/-- A finding that is not about a place: a warning, that the arrangement is missing, or that a
reference leads nowhere. -/
inductive Issue.SparesPlace : Issue → Prop
  | warning {issue : Issue} : issue.severity = .warning → SparesPlace issue
  | missingArrangement : SparesPlace .missingArrangement
  | unresolvedReference (name : String) : SparesPlace (.unresolvedReference name)

theorem Issue.SparesPlace.diagnostic_ne {issue found : Issue} (hfound : found.SparesPlace)
    (h : issue.isMisplacement = true) : found.diagnostic ≠ issue.diagnostic := by
  intro heq
  cases hfound with
  | warning hwarning =>
    have hseverity : found.severity = issue.severity := congrArg Diagnostic.severity heq
    rw [hwarning, severity_of_isMisplacement h] at hseverity
    exact absurd hseverity (by decide)
  | missingArrangement =>
    exact message_ne_of_isMisplacement h
      (EndsWith.append "function is missing ABI information and " "cannot be called")
      (by decide) (congrArg Diagnostic.message heq)
  | unresolvedReference name =>
    exact message_ne_of_isMisplacement h
      (EndsWith.append ("type reference " ++ ticked name) " does not resolve to a declaration")
      (by decide +kernel) (congrArg Diagnostic.message heq)

theorem Arrangement.severity_of_mem_issues {a : Arrangement} {default : CallingConvention}
    {nameOf : Nat → String} {issue : Issue} (h : issue ∈ a.issues default nameOf) :
    issue.severity = .warning := by
  rw [issues_eq, List.mem_append] at h
  rcases h with hconvention | hother
  · rw [conventionIssues] at hconvention
    rw [List.mem_singleton.mp (List.mem_ite_nil_left.mp hconvention).2]
    rfl
  · obtain ⟨_, _, rfl⟩ | ⟨_, rfl⟩ | ⟨_, rfl⟩ | ⟨_, rfl⟩ | ⟨_, _, _, _, rfl⟩ :=
      mem_otherIssues_cases hother
    all_goals rfl

namespace Context

variable {ctx : Context} {d : Decl} {issue : Issue}

theorem sparesPlace_of_mem_functionIssues {default : CallingConvention} {f : Callable Decl}
    (hhosts : ctx.hostsMembers = true) (h : issue ∈ ctx.functionIssues default d f) :
    issue.SparesPlace := by
  rw [functionIssues, if_pos hhosts, List.nil_append, List.mem_append] at h
  rcases h with herrorCode | harrangement
  · rw [List.mem_singleton.mp (List.mem_ite_nil_right.mp herrorCode).2]
    exact .warning rfl
  · split at harrangement
    · rw [List.mem_singleton.mp harrangement]
      exact .missingArrangement
    · exact .warning (Arrangement.severity_of_mem_issues harrangement)

theorem sparesPlace_of_mem_memberIssues (hhosts : ctx.hostsMembers = true)
    (h : issue ∈ ctx.memberIssues d) : issue.SparesPlace := by
  rw [memberIssues, if_pos hhosts, List.nil_append] at h
  split at h
  · rw [List.mem_singleton.mp h]
    exact .warning rfl
  · exact absurd h List.not_mem_nil

/-- Where members may be, nothing is found about the place of a function or a static field. -/
theorem sparesPlace_of_mem_issues {default : CallingConvention}
    (hhosts : ctx.hostsMembers = true)
    (hform : d.kind.form = .function ∨ d.kind.form = .staticField)
    (h : issue ∈ ctx.issues default d) : issue.SparesPlace := by
  rcases List.mem_append.mp h with hlevel | hkind
  · exact .warning (severity_of_mem_accessibilityIssues hlevel)
  · unfold kindIssues at hkind
    cases hd : d.kind with
    | function f =>
      rw [hd] at hkind
      exact sparesPlace_of_mem_functionIssues hhosts hkind
    | staticField mangledName type =>
      rw [hd] at hkind
      exact sparesPlace_of_mem_memberIssues hhosts hkind
    | _ =>
      rw [hd] at hform
      rcases hform with hform | hform <;> exact absurd hform nofun

end Context

/-! ## Settled declarations -/

theorem Diagnostics.mem_attachAll {ds : Diagnostics} {issues : List Issue} {x : Diagnostic}
    (h : x ∈ Issue.attachAll ds issues) : x ∈ ds ∨ ∃ issue ∈ issues, issue.diagnostic = x := by
  induction issues generalizing ds with
  | nil => exact .inl h
  | cons issue issues ih =>
    rcases ih h with hattach | ⟨other, hother, hx⟩
    · by_cases hrecords : ds.Records issue
      · rw [hrecords.attach_eq] at hattach
        exact .inl hattach
      · rw [Issue.attach_of_not_records hrecords, List.mem_append] at hattach
        rcases hattach with hds | hnew
        · exact .inl hds
        · exact .inr ⟨issue, List.mem_cons_self .., (List.mem_singleton.mp hnew).symm⟩
    · exact .inr ⟨other, List.mem_cons_of_mem issue hother, hx⟩

/-- **Verification attaches no error about the place** of a function or a static field where
members may be. -/
theorem Settles.mem_diagnostics_of_isMisplacement {default : CallingConvention} {L N : Library}
    {above : List Decl} {d d' : Decl} (h : Settles default L N above d d')
    (hhosts : (Context.mk L above).hostsMembers = true)
    (hform : d.kind.form = .function ∨ d.kind.form = .staticField) {issue : Issue}
    (hissue : issue.isMisplacement = true) (hmem : issue.diagnostic ∈ d'.diagnostics) :
    issue.diagnostic ∈ d.diagnostics := by
  obtain ⟨parts, _, rfl⟩ := h.exists_parts
  rw [Context.diagnostics_settle] at hmem
  rcases Diagnostics.mem_attachAll hmem with hold | ⟨found, hfound, hsame⟩
  · exact hold
  · refine absurd hsame (Issue.SparesPlace.diagnostic_ne ?_ hissue)
    rcases List.mem_append.mp hfound with hplace | hreference
    · rw [← (d.continues_withSettled _).form] at hform
      exact Context.sparesPlace_of_mem_issues hhosts hform hplace
    · obtain ⟨name, _, rfl⟩ := List.mem_map.mp hreference
      exact .unresolvedReference name

end NativeApi

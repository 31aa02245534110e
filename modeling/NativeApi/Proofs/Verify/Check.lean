import NativeApi.Proofs.Pass.Run
import NativeApi.Verify.Pass

/-!
# What one check does

The repair of one declaration and the findings attached to it, apart from where the declaration
sits in the tree.  A check keeps the form and the children, and appends to the diagnostics
(`Context.continues_check`).  The entries and the hooks that a declaration goes through come to one
check (`verification_decl`).

`Diagnostics.Records ds issue` says that `ds` shows a finding already, so that attaching it once
more changes nothing.  Attaching records (`Diagnostics.records_attachAll`), and what is recorded
stays recorded when more is appended (`Diagnostics.Records.mono`).
-/

namespace NativeApi

/-! ## The parts that a check keeps -/

namespace Context

@[simp] theorem form_repairedKind (ctx : Context) (k : Kind Decl) :
    (ctx.repairedKind k).form = k.form := by
  cases k <;> rfl

@[simp] theorem children_repairedKind (ctx : Context) (k : Kind Decl) :
    (ctx.repairedKind k).children = k.children := by
  cases k <;> rfl

/-- Only enums and parameters get another kind. -/
theorem kind_of_repairedKind {ctx : Context} {k k' : Kind Decl} (henum : k'.form ≠ .enumeration)
    (hparameter : k'.form ≠ .parameter) (h : ctx.repairedKind k = k') : k = k' := by
  subst h
  cases k with
  | enumeration e => exact absurd rfl henum
  | parameter type value => exact absurd rfl hparameter
  | _ => rfl

theorem continues_check (ctx : Context) (default : CallingConvention) (d : Decl) :
    d.Continues (ctx.check default d) :=
  ⟨rfl, ctx.form_repairedKind d.kind, Issue.isPrefix_attachAll _ _⟩

theorem children_check (ctx : Context) (default : CallingConvention) (d : Decl) :
    (ctx.check default d).children = d.children := ctx.children_repairedKind d.kind

end Context

/-! ## The hooks together -/

namespace Verification

variable (default : CallingConvention) (ctx : Context) (d : Decl) (s : Progress Nat)

theorem decl_apply :
    decl default ctx d s =
      let fixed := { d with
        accessibility := ctx.repairedAccessibility d
        diagnostics := Issue.attachAll d.diagnostics (ctx.accessibilityIssues d) }
      let asked := dispatch (hook default) (field default) ctx fixed
        ⟨s.ids, s.state + (ctx.accessibilityIssues d).countP Issue.isCounted⟩
      (asked.1.orReplace fixed, asked.2) := rfl

theorem hook_enumeration (e : Enumeration Decl) :
    hook default (.enumeration e) ctx d s =
      let checked := { d with
        diagnostics := Issue.attachAll d.diagnostics (ctx.enumIssues d.name e)
        kind := .enumeration { e with isLoose := ctx.repairedLoose e } }
      let found := s.state + (ctx.enumIssues d.name e).countP Issue.isCounted
      if ctx.wrapsEnum e then
        (.replace (enumContainer s.ids.next checked), ⟨s.ids.take.2, found⟩)
      else (.replace checked, ⟨s.ids, found⟩) := by
  rw [hook, Pass.bind_apply]
  split <;> rfl

end Verification

/-- **The entries and the hooks of verification together** attach every finding to the repaired
declaration, and put a container around an enum that needs one. -/
theorem verification_decl (default : CallingConvention) (ctx : Context) (d : Decl)
    (s : Progress Nat) :
    (verification default).decl ctx d s =
      let found := s.state + (ctx.issues default d).countP Issue.isCounted
      if ctx.needsContainer d then
        (.replace (enumContainer s.ids.next (ctx.check default d)), ⟨s.ids.take.2, found⟩)
      else (.replace (ctx.check default d), ⟨s.ids, found⟩) := by
  -- the findings of the accessibility come first, then those of the kind
  simp only [Context.check, Context.issues, Issue.attachAll_append, List.countP_append,
    ← Nat.add_assoc]
  show Verification.decl default ctx d s = _
  rw [Verification.decl_apply]
  obtain ⟨id, name, scope, accessibility, file, diagnostics, metadata, kind⟩ := d
  -- only an enum can get a container, and only a field goes through one more entry
  cases kind with
  | enumeration e =>
    have hneeds : ctx.needsContainer
        ⟨id, name, scope, accessibility, file, diagnostics, metadata, .enumeration e⟩
          = ctx.wrapsEnum e := rfl
    simp only [dispatch, Verification.hook_enumeration, hneeds]
    split <;> rfl
  | field offset content =>
    simp only [Context.kindIssues, Issue.attachAll_append, List.countP_append, ← Nat.add_assoc]
    rfl
  | _ => rfl

/-! ## Recorded findings -/

theorem Issue.severity_of_isFallback {issue : Issue} (h : issue.isFallback = true) :
    issue.severity = .error := by
  unfold isFallback at h
  split at h
  · rfl
  · rfl
  · exact absurd h Bool.false_ne_true

/-- A finding shows in a list of diagnostics. -/
def Diagnostics.Records (ds : Diagnostics) (issue : Issue) : Prop :=
  if issue.isFallback then ds.hasErrors = true else issue.diagnostic ∈ ds

namespace Diagnostics

theorem Records.mono {ds ds' : Diagnostics} {issue : Issue} (h : ds.Records issue)
    (hgrow : ds <+: ds') : ds'.Records issue := by
  unfold Records at h ⊢
  split at h
  · next hf =>
    rw [if_pos hf]
    obtain ⟨d, hmem, hsev⟩ := hasErrors_iff.mp h
    exact hasErrors_iff.mpr ⟨d, hgrow.subset hmem, hsev⟩
  · next hf =>
    rw [if_neg hf]
    exact hgrow.subset h

theorem records_attach (ds : Diagnostics) (issue : Issue) : Records (issue.attach ds) issue := by
  unfold Records Issue.attach
  split
  · exact hasErrors_ensureAnyError ds issue.message
  · exact mem_ensure ds issue.diagnostic

theorem records_attachAll {issues : List Issue} {issue : Issue} (h : issue ∈ issues)
    (ds : Diagnostics) : Records (Issue.attachAll ds issues) issue := by
  induction issues generalizing ds with
  | nil => exact absurd h (List.not_mem_nil)
  | cons first rest ih =>
    rcases List.mem_cons.mp h with rfl | hrest
    · exact (records_attach ds issue).mono (Issue.isPrefix_attachAll _ rest)
    · exact ih hrest _

theorem Records.attach_eq {ds : Diagnostics} {issue : Issue} (h : ds.Records issue) :
    issue.attach ds = ds := by
  unfold Records at h
  unfold Issue.attach
  split at h
  · next hf => rw [if_pos hf, ensureAnyError, if_pos h]
  · next hf => rw [if_neg hf, ensure_of_mem h]

theorem attachAll_eq_self {ds : Diagnostics} {issues : List Issue}
    (h : ∀ issue ∈ issues, ds.Records issue) : Issue.attachAll ds issues = ds := by
  induction issues with
  | nil => rfl
  | cons first rest ih =>
    have hfirst : first.attach ds = ds := (h first (List.mem_cons_self ..)).attach_eq
    rw [Issue.attachAll, List.foldl_cons, show Issue.attach ds first = ds from hfirst]
    exact ih fun issue hi => h issue (List.mem_cons_of_mem first hi)

theorem Records.hasErrors {ds : Diagnostics} {issue : Issue} (h : ds.Records issue)
    (herror : issue.severity = .error) : ds.hasErrors = true := by
  unfold Records at h
  split at h
  · exact h
  · exact hasErrors_iff.mpr ⟨issue.diagnostic, h, herror⟩

theorem hasErrors_attach_of_ne {ds : Diagnostics} {issue : Issue} (h : issue.severity ≠ .error) :
    (issue.attach ds).hasErrors = ds.hasErrors := by
  rw [Issue.attach, if_neg fun hfallback => h (Issue.severity_of_isFallback hfallback), ensure]
  split
  · rfl
  · rw [hasErrors, List.any_append, List.any_cons, List.any_nil, Bool.or_false,
      show issue.diagnostic.isError = false from decide_eq_false h, Bool.or_false]
    rfl

/-- **Errors come from errors**: those that were there, and the findings that are errors. -/
theorem hasErrors_attachAll_iff {ds : Diagnostics} {issues : List Issue} :
    (Issue.attachAll ds issues).hasErrors = true ↔
      ds.hasErrors = true ∨ ∃ issue ∈ issues, issue.severity = .error := by
  constructor
  · intro h
    by_contra hnone
    rw [not_or, not_exists] at hnone
    induction issues generalizing ds with
    | nil => exact hnone.1 h
    | cons first rest ih =>
      have hfirst : first.severity ≠ .error := fun herror =>
        hnone.2 first ⟨List.mem_cons_self .., herror⟩
      refine ih h ⟨?_, fun issue hissue => ?_⟩
      · rw [hasErrors_attach_of_ne hfirst]
        exact hnone.1
      · exact hnone.2 issue ⟨List.mem_cons_of_mem first hissue.1, hissue.2⟩
  · rintro (h | ⟨issue, hissue, herror⟩)
    · obtain ⟨diagnostic, hmem, hsev⟩ := hasErrors_iff.mp h
      exact hasErrors_iff.mpr ⟨diagnostic, (Issue.isPrefix_attachAll ds issues).subset hmem, hsev⟩
    · exact (records_attachAll hissue ds).hasErrors herror

end Diagnostics

end NativeApi

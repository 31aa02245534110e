import NativeApi.Proofs.Verify.Amendments
import NativeApi.Proofs.Verify.Misplacement

/-!
# What the count of findings accounts for

The count that verification keeps accounts for almost every diagnostic that a run attaches.  Two
kinds of errors escape it: those that say that a declaration is not supported, and those about
references that lead nowhere, which are attached by the second walk.

* `Context.unsupported_of_not_isCounted`: of the findings about a declaration in its place, only the
  one that it is not supported is not counted.
* `Accounted`: how far the count accounts for what takes the place of declarations, with a lemma for
  each thing that the hook does.  `accounted_applyAll`: the first walk is accounted for so far.
* `tally_map_mark_le`, `Decl.KeepsReported.mark`: what the second walk adds.
* `verify_accounts_for_diagnostics`: **a run attaches no more than it counts**, apart from the two
  kinds of errors.
-/

namespace NativeApi

variable {default : CallingConvention} {N : Library}

/-! ## Totals -/

namespace Decl

/-- A number for each declaration, added up over some trees. -/
def tally (f : Decl → Nat) (ds : List Decl) : Nat :=
  (ds.flatMap subtree).foldr (fun d total => f d + total) 0

theorem tally_append (f : Decl → Nat) (ds es : List Decl) :
    tally f (ds ++ es) = tally f ds + tally f es := by
  have hfrom (ds : List Decl) (start : Nat) :
      ds.foldr (fun d total => f d + total) start
        = ds.foldr (fun d total => f d + total) 0 + start := by
    induction ds with
    | nil => exact (Nat.zero_add start).symm
    | cons d ds ih => rw [List.foldr_cons, List.foldr_cons, ih, Nat.add_assoc]
  rw [tally, List.flatMap_append, List.foldr_append, hfrom]
  rfl

theorem tally_singleton (f : Decl → Nat) (d : Decl) :
    tally f [d] = f d + tally f d.children := by
  rw [tally, List.flatMap_cons, List.flatMap_nil, List.append_nil, subtree_eq]
  rfl

theorem tally_cons (f : Decl → Nat) (d : Decl) (ds : List Decl) :
    tally f (d :: ds) = tally f [d] + tally f ds := tally_append f [d] ds

theorem tally_mono {f g : Decl → Nat} (h : ∀ d, f d ≤ g d) (ds : List Decl) :
    tally f ds ≤ tally g ds := by
  unfold tally
  induction ds.flatMap subtree with
  | nil => exact Nat.le_refl _
  | cons d ds ih => exact Nat.add_le_add (h d) ih

theorem tally_add (f g : Decl → Nat) (ds : List Decl) :
    tally (fun d => f d + g d) ds = tally f ds + tally g ds := by
  unfold tally
  induction ds.flatMap subtree with
  | nil => rfl
  | cons d ds ih =>
    rw [List.foldr_cons, List.foldr_cons, List.foldr_cons, ih]
    exact Nat.add_add_add_comm ..

def diagnosticCount (d : Decl) : Nat := d.diagnostics.length

/-- Whether a declaration is not supported and has no error that says why. -/
def isUnexplained (d : Decl) : Bool :=
  match d.kind with
  | .unsupported _ => !d.hasErrors
  | _ => false

theorem isUnexplained_iff {d : Decl} :
    d.isUnexplained = true ↔ (∃ what, d.kind = .unsupported what) ∧ d.hasErrors = false := by
  rw [isUnexplained]
  cases d.kind <;> simp

theorem isUnexplained_rebuild (d : Decl) (replacements : List Replacement) :
    ({ d with kind := d.kind.rebuild replacements } : Decl).isUnexplained = d.isUnexplained := by
  obtain ⟨id, name, scope, accessibility, file, diagnostics, metadata, kind⟩ := d
  cases kind <;> rfl

theorem tally_enumContainer (id : DeclId) (d : Decl) :
    tally diagnosticCount [enumContainer id d] = tally diagnosticCount [d] := by
  rw [tally_singleton]
  exact Nat.zero_add _

end Decl

namespace Library

def diagnosticCount (L : Library) : Nat := Decl.tally Decl.diagnosticCount L.roots

def unexplainedCount (L : Library) : Nat := Decl.tally (fun d => d.isUnexplained.toNat) L.roots

def danglingCount (L : Library) : Nat := Decl.tally (fun d => (L.danglingNames d).length) L.roots

end Library

/-! ## Findings -/

namespace Issue

theorem isCounted_of_severity {issue : Issue} (h : issue.severity = .warning) :
    issue.isCounted = true := by
  cases issue with
  | unsupportedDeclaration what => exact absurd h nofun
  | _ => rfl

theorem length_attach_le (ds : Diagnostics) (issue : Issue) :
    (issue.attach ds).length ≤ ds.length + 1 := by
  by_cases hrecords : ds.Records issue
  · rw [hrecords.attach_eq]
    exact Nat.le_succ _
  · rw [attach_of_not_records hrecords, List.length_append]
    exact Nat.le_refl _

theorem length_attachAll_le (ds : Diagnostics) (issues : List Issue) :
    (attachAll ds issues).length ≤ ds.length + issues.length := by
  induction issues generalizing ds with
  | nil => exact Nat.le_refl _
  | cons issue issues ih =>
    have hfirst := length_attach_le ds issue
    have hrest := ih (issue.attach ds)
    show (attachAll (issue.attach ds) issues).length ≤ _
    rw [List.length_cons]
    omega

end Issue

namespace Context

variable {ctx : Context} {d : Decl}

theorem isCounted_of_mem_functionIssues {f : Callable Decl} {issue : Issue}
    (h : issue ∈ ctx.functionIssues default d f) : issue.isCounted = true := by
  rw [functionIssues, List.mem_append, List.mem_append] at h
  rcases h with (hplace | herrorCode) | harrangement
  · rw [List.mem_singleton.mp (List.mem_ite_nil_left.mp hplace).2]
    rfl
  · rw [List.mem_singleton.mp (List.mem_ite_nil_right.mp herrorCode).2]
    rfl
  · split at harrangement
    · rw [List.mem_singleton.mp harrangement]
      rfl
    · exact Issue.isCounted_of_severity (Arrangement.severity_of_mem_issues harrangement)

theorem isCounted_of_mem_recordIssues {r : Record Decl} {issue : Issue}
    (h : issue ∈ recordIssues r) : issue.isCounted = true := by
  rw [recordIssues, List.mem_append, List.mem_append] at h
  rcases h with (hmembers | hpair) | hslot
  · rw [List.mem_singleton.mp (List.mem_ite_nil_left.mp hmembers).2]
    rfl
  · rw [List.mem_singleton.mp (List.mem_ite_nil_left.mp hpair).2]
    rfl
  · obtain ⟨slot, _, hissue⟩ := List.mem_filterMap.mp hslot
    split at hissue
    · cases hissue
    · rw [← Option.some.inj (Option.ite_none_left_eq_some.mp hissue).2]
      rfl

theorem isCounted_of_mem_memberIssues {issue : Issue} (h : issue ∈ ctx.memberIssues d) :
    issue.isCounted = true := by
  rw [memberIssues, List.mem_append] at h
  rcases h with hplace | hname
  · rw [List.mem_singleton.mp (List.mem_ite_nil_left.mp hplace).2]
    rfl
  · split at hname
    · rw [List.mem_singleton.mp hname]
      rfl
    · exact absurd hname List.not_mem_nil

/-- What is found about a declaration by its kind is counted, unless it is not supported. -/
theorem all_isCounted_kindIssues (h : d.kind.form ≠ .unsupported) :
    (ctx.kindIssues default d).all Issue.isCounted = true := by
  unfold kindIssues
  cases hkind : d.kind with
  | record r => exact List.all_eq_true.mpr fun _ => isCounted_of_mem_recordIssues
  | enumeration e =>
    dsimp only [enumIssues]
    repeat' split
    all_goals rfl
  | enumConstant value isExplicit =>
    dsimp only [enumConstantIssues]
    split <;> rfl
  | function f => exact List.all_eq_true.mpr fun _ => isCounted_of_mem_functionIssues
  | parameter type value =>
    dsimp only [parameterIssues]
    rw [List.all_append, Bool.and_eq_true]
    constructor
    · split <;> rfl
    · repeat' split
      all_goals rfl
  | field offset content =>
    dsimp only
    rw [List.all_append, Bool.and_eq_true]
    refine ⟨List.all_eq_true.mpr fun _ => isCounted_of_mem_memberIssues, ?_⟩
    unfold contentIssues
    repeat' split
    all_goals rfl
  | staticField mangledName type =>
    exact List.all_eq_true.mpr fun _ => isCounted_of_mem_memberIssues
  | vtable entries =>
    dsimp only
    split <;> rfl
  | unsupported what => exact absurd (by rw [hkind]; rfl) h
  | _ => rfl

/-- **Of the findings about a declaration, only that it is not supported is not counted.** -/
theorem unsupported_of_not_isCounted {issue : Issue} (h : issue ∈ ctx.issues default d)
    (hcount : issue.isCounted = false) :
    ∃ what, d.kind = .unsupported what ∧ issue = .unsupportedDeclaration what := by
  rcases List.mem_append.mp h with hlevel | hkind
  · rw [Issue.isCounted_of_severity (severity_of_mem_accessibilityIssues hlevel)] at hcount
    exact absurd hcount nofun
  · by_cases hform : d.kind.form = .unsupported
    · obtain ⟨what, hwhat⟩ := Kind.form_eq_unsupported_iff.mp hform
      unfold kindIssues at hkind
      rw [hwhat] at hkind
      exact ⟨what, hwhat, List.mem_singleton.mp hkind⟩
    · rw [List.all_eq_true.mp (all_isCounted_kindIssues hform) issue hkind] at hcount
      exact absurd hcount nofun

/-- **A check adds no more than is counted**, but for the error that explains a declaration. -/
theorem length_diagnostics_check_le (ctx : Context) (default : CallingConvention) (d : Decl) :
    (ctx.check default d).diagnostics.length
      ≤ d.diagnostics.length + (ctx.issues default d).countP Issue.isCounted
        + d.isUnexplained.toNat := by
  have hlevel : ∀ issue ∈ ctx.accessibilityIssues d, issue.isCounted = true := fun issue hissue =>
    Issue.isCounted_of_severity (severity_of_mem_accessibilityIssues hissue)
  by_cases hform : d.kind.form = .unsupported
  · obtain ⟨what, hwhat⟩ := Kind.form_eq_unsupported_iff.mp hform
    have hissues : ctx.issues default d
        = ctx.accessibilityIssues d ++ [.unsupportedDeclaration what] := by
      rw [issues, kindIssues, hwhat]
    have hcount : (ctx.issues default d).countP Issue.isCounted
        = (ctx.accessibilityIssues d).length := by
      rw [hissues, List.countP_append, List.countP_eq_length.mpr hlevel]
      rfl
    have hfirst := Issue.length_attachAll_le d.diagnostics (ctx.accessibilityIssues d)
    show (Issue.attachAll d.diagnostics (ctx.issues default d)).length ≤ _
    rw [hcount, hissues, Issue.attachAll_append]
    cases herrors : d.hasErrors with
    | true =>
      -- the declaration has its error already
      have hrecords : (Issue.attachAll d.diagnostics (ctx.accessibilityIssues d)).Records
          (.unsupportedDeclaration what) :=
        Diagnostics.hasErrors_attachAll_iff.mpr (.inl herrors)
      rw [show Issue.attachAll _ [Issue.unsupportedDeclaration what] = _ from hrecords.attach_eq]
      omega
    | false =>
      have hunexplained : d.isUnexplained = true :=
        Decl.isUnexplained_iff.mpr ⟨⟨what, hwhat⟩, herrors⟩
      have hlast := Issue.length_attach_le
        (Issue.attachAll d.diagnostics (ctx.accessibilityIssues d)) (.unsupportedDeclaration what)
      rw [hunexplained, Bool.toNat_true]
      exact Nat.le_trans hlast (Nat.succ_le_succ hfirst)
  · have hcounted : ∀ issue ∈ ctx.issues default d, issue.isCounted = true := by
      intro issue hissue
      by_contra hnot
      obtain ⟨what, hwhat, _⟩ := unsupported_of_not_isCounted hissue (Bool.eq_false_iff.mpr hnot)
      exact hform (Kind.form_eq_unsupported_iff.mpr ⟨what, hwhat⟩)
    rw [List.countP_eq_length.mpr hcounted]
    exact Nat.le_trans (Issue.length_attachAll_le _ _) (Nat.le_add_right _ _)

theorem countP_issues_pos_of_needsContainer (default : CallingConvention)
    (h : ctx.needsContainer d = true) :
    0 < (ctx.issues default d).countP Issue.isCounted := by
  refine List.countP_pos_iff.mpr ⟨.enumWrapped d.name, List.mem_append_right _ ?_, rfl⟩
  unfold needsContainer at h
  unfold kindIssues
  split at h
  · next e hkind =>
    rw [hkind]
    dsimp only
    rw [enumIssues, if_pos h]
    exact List.mem_singleton_self _
  · exact absurd h Bool.false_ne_true

end Context

/-! ## What is not counted -/

/-- What is attached to a declaration without being counted, where references are looked up in
`N`. -/
inductive Decl.EscapesCount (N : Library) (d d' : Decl) : Diagnostic → Prop
  | unsupported {what : String} : d.kind = .unsupported what → d.hasErrors = false →
      EscapesCount N d d' (Issue.unsupportedDeclaration what).diagnostic
  | dangling {name : String} : name ∈ N.danglingNames d' →
      EscapesCount N d d' (Issue.unresolvedReference name).diagnostic

/-- A declaration keeps its diagnostics, and all that is attached to it is not counted. -/
def Decl.KeepsReported (N : Library) (d d' : Decl) : Prop :=
  ∃ new, d'.diagnostics = d.diagnostics ++ new ∧ ∀ x ∈ new, d.EscapesCount N d' x

theorem Diagnostics.exists_attachAll_eq_append (ds : Diagnostics) (issues : List Issue) :
    ∃ new : Diagnostics, Issue.attachAll ds issues = ds ++ new ∧
      ∀ x ∈ new, ∃ issue ∈ issues, issue.diagnostic = x := by
  obtain ⟨new, hnew, _, hdisjoint⟩ := GrowsTo.attachAll ds issues
  refine ⟨new, hnew, fun x hx => ?_⟩
  have hmem : x ∈ Issue.attachAll ds issues := by
    rw [hnew]
    exact List.mem_append_right ds hx
  exact (mem_attachAll hmem).resolve_left fun hold => hdisjoint hold hx

theorem Library.danglingNames_mark (N : Library) (d : Decl) :
    N.danglingNames (N.mark d) = N.danglingNames d := by
  rw [danglingNames, danglingNames, mark_eq]
  exact congrArg (fun refs : List DeclRef =>
    ((refs.filter fun ref => !N.contains ref.id).map DeclRef.name).eraseDups)
    (Kind.declRefs_withSettled d _)

namespace Decl.KeepsReported

theorem check {ctx : Context} {d : Decl} (N : Library)
    (h : (ctx.issues default d).countP Issue.isCounted = 0) :
    d.KeepsReported N (ctx.check default d) := by
  have hissues : ∀ issue ∈ ctx.issues default d,
      ∃ what, d.kind = .unsupported what ∧ issue = .unsupportedDeclaration what := by
    intro issue hissue
    have hcount := List.countP_eq_zero.mp h issue hissue
    exact Context.unsupported_of_not_isCounted hissue (Bool.eq_false_iff.mpr hcount)
  cases herrors : d.hasErrors with
  | true =>
    refine ⟨[], ?_, fun x hx => absurd hx List.not_mem_nil⟩
    rw [List.append_nil]
    refine Diagnostics.attachAll_eq_self fun issue hissue => ?_
    obtain ⟨what, _, rfl⟩ := hissues issue hissue
    exact herrors
  | false =>
    obtain ⟨new, hnew, hfound⟩ :=
      Diagnostics.exists_attachAll_eq_append d.diagnostics (ctx.issues default d)
    refine ⟨new, hnew, fun x hx => ?_⟩
    obtain ⟨issue, hissue, rfl⟩ := hfound x hx
    obtain ⟨what, hwhat, rfl⟩ := hissues issue hissue
    exact .unsupported hwhat herrors

theorem of_rebuild {d d' : Decl} {replacements : List Replacement}
    (h : ({ d with kind := d.kind.rebuild replacements } : Decl).KeepsReported N d') :
    d.KeepsReported N d' := by
  obtain ⟨new, hnew, hescapes⟩ := h
  refine ⟨new, hnew, fun x hx => ?_⟩
  cases hescapes x hx with
  | @unsupported what hwhat herrors =>
    obtain ⟨what', hkind⟩ := Kind.form_eq_unsupported_iff.mp
      ((d.kind.form_rebuild replacements).symm.trans (congrArg Kind.form hwhat))
    rw [hkind] at hwhat
    obtain rfl : what' = what := Kind.unsupported.inj hwhat
    exact .unsupported hkind herrors
  | dangling hname => exact .dangling hname

/-- The errors about references are not counted. -/
theorem mark {d d' : Decl} (h : d.KeepsReported N d') : d.KeepsReported N (N.mark d') := by
  obtain ⟨new, hnew, hescapes⟩ := h
  obtain ⟨marks, hmarks, hfound⟩ :=
    Diagnostics.exists_attachAll_eq_append d'.diagnostics (N.danglingIssues d')
  have hsame := N.danglingNames_mark d'
  refine ⟨new ++ marks, ?_, fun x hx => ?_⟩
  · rw [Library.mark_eq]
    show Issue.attachAll d'.diagnostics (N.danglingIssues d') = _
    rw [hmarks, hnew, List.append_assoc]
  · rcases List.mem_append.mp hx with hx | hx
    · cases hescapes x hx with
      | unsupported hwhat herrors => exact .unsupported hwhat herrors
      | dangling hname => exact .dangling (hsame ▸ hname)
    · obtain ⟨issue, hissue, rfl⟩ := hfound x hx
      obtain ⟨name, hname, rfl⟩ := List.mem_map.mp hissue
      exact .dangling (hsame ▸ hname)

end Decl.KeepsReported

/-! ## The first walk -/

/-- The count goes from `before` to `after` while `news` take the places of `ds`.  It accounts for
the diagnostics that are attached, but for one at each unexplained declaration.  If it stays where
it is, the trees keep their shape, and nothing is attached that it would have to show. -/
structure Accounted (N : Library) (ds news : List Decl) (before after : Nat) : Prop where
  le : before ≤ after
  total : Decl.tally Decl.diagnosticCount news + before
    ≤ Decl.tally Decl.diagnosticCount ds + after + Decl.tally (fun d => d.isUnexplained.toNat) ds
  quiet : after = before → List.Forall₂ (Decl.Throughout (Decl.KeepsReported N)) ds news

namespace Accounted

variable {d : Decl} {rest news news' : List Decl} {before middle after : Nat}

theorem nil (N : Library) (count : Nat) : Accounted N [] [] count count :=
  ⟨Nat.le_refl _, Nat.le_refl _, fun _ => .nil⟩

theorem cons (h : Accounted N [d] news before middle)
    (h' : Accounted N rest news' middle after) :
    Accounted N (d :: rest) (news ++ news') before after where
  le := Nat.le_trans h.le h'.le
  total := by
    have hfirst := h.total
    have hrest := h'.total
    rw [Decl.tally_append, Decl.tally_cons _ d rest, Decl.tally_cons _ d rest]
    omega
  quiet hsame := by
    have hle := h.le
    have hle' := h'.le
    exact List.rel_append (h.quiet (by omega)) (h'.quiet (by omega))

variable {replacements : List Replacement}

theorem check (ctx : Context) (default : CallingConvention)
    (hfst : replacements.map Prod.fst = d.children)
    (h : Accounted N d.children (replacements.flatMap Prod.snd) before middle) :
    let rebuilt : Decl := { d with kind := d.kind.rebuild replacements }
    Accounted N [d] [ctx.check default rebuilt] before
      (middle + (ctx.issues default rebuilt).countP Issue.isCounted) := by
  intro rebuilt
  have hchildren : (ctx.check default rebuilt).children = replacements.flatMap Prod.snd := by
    rw [ctx.children_check]
    exact Kind.children_rebuild hfst
  have hle := h.le
  refine ⟨by omega, ?_, fun hsame => ?_⟩
  · have hhere := ctx.length_diagnostics_check_le default rebuilt
    rw [d.isUnexplained_rebuild replacements] at hhere
    have hbelow := h.total
    rw [Decl.tally_singleton, Decl.tally_singleton, Decl.tally_singleton, hchildren,
      Decl.diagnosticCount, Decl.diagnosticCount]
    have hrebuilt : rebuilt.diagnostics.length = d.diagnostics.length := rfl
    omega
  · have hhere : (ctx.issues default rebuilt).countP Issue.isCounted = 0 := by omega
    refine .cons (.node (.of_rebuild (.check N hhere)) ?_) .nil
    rw [hchildren]
    exact h.quiet (by omega)

/-- A container is put around an enum that was found to need it. -/
theorem container {d' : Decl} (id : DeclId) (h : Accounted N [d] [d'] before after)
    (hcounted : before < after) : Accounted N [d] [enumContainer id d'] before after where
  le := h.le
  total := by
    rw [Decl.tally_enumContainer]
    exact h.total
  quiet hsame := absurd hsame (Nat.ne_of_gt hcounted)

end Accounted

/-- **The first walk over siblings is accounted for.** -/
theorem accounted_applyAll (default : CallingConvention) (N : Library) (ctx : Context)
    (ds : List Decl) (s : Progress Nat) :
    let done := (verification default).applyAll ctx ds s
    Accounted N ds (done.1.flatMap Prod.snd) s.state done.2.state := by
  have key := Pass.run_induction (p := verification default)
    (P := fun ctx d s news s' => Accounted N [d] news s.state s'.state)
    (Q := fun ctx ds s replacements s' =>
      Accounted N ds (replacements.flatMap Prod.snd) s.state s'.state)
    (fun _ s => .nil N s.state) (fun hd hrest => hd.cons hrest) ?decl
  case decl =>
    intro ctx d s kind s₁ replacements s₂ answer s₃ htype hall hchildren hanswer
    rw [Pass.applyOwnType_of_silent (fun _ _ _ => rfl), Prod.mk.injEq] at htype
    obtain ⟨rfl, rfl⟩ := htype
    have hfst : replacements.map Prod.fst = d.children := by
      rw [← (verification default).map_fst_applyAll (ctx.enter d) d.children s, hall]
    have hchecked := hchildren.check ctx default hfst
    rw [verification_decl] at hanswer
    dsimp only at hanswer
    split at hanswer
    · next hneeds =>
      obtain ⟨rfl, rfl⟩ := Prod.mk.inj hanswer
      refine hchecked.container _ ?_
      have hcounted := Context.countP_issues_pos_of_needsContainer default hneeds
      exact Nat.lt_of_le_of_lt hchildren.le (Nat.lt_add_of_pos_right hcounted)
    · obtain ⟨rfl, rfl⟩ := Prod.mk.inj hanswer
      exact hchecked
  exact key.2 ctx ds s

/-! ## The second walk -/

theorem Library.subtree_mark (N : Library) (d : Decl) :
    (N.mark d).subtree = d.subtree.map N.mark := by
  induction d using Decl.induction with
  | step d ih =>
    rw [Decl.subtree_eq, Decl.subtree_eq d, N.children_mark, List.flatMap_map, List.map_cons,
      List.map_flatMap]
    exact congrArg (N.mark d :: ·) (List.flatMap_congr ih)

theorem Decl.tally_map_mark (f : Decl → Nat) (ds : List Decl) :
    tally f (ds.map N.mark) = tally (fun d => f (N.mark d)) ds := by
  have hsubtrees : (ds.map N.mark).flatMap subtree = (ds.flatMap subtree).map N.mark := by
    rw [List.flatMap_map, List.map_flatMap]
    exact List.flatMap_congr fun d _ => N.subtree_mark d
  rw [tally, hsubtrees, List.foldr_map]
  rfl

/-- The second walk attaches one error at most for each name that refers to nothing. -/
theorem tally_map_mark_le (N : Library) (ds : List Decl) :
    Decl.tally Decl.diagnosticCount (ds.map N.mark)
      ≤ Decl.tally Decl.diagnosticCount ds
        + Decl.tally (fun d => (N.danglingNames d).length) (ds.map N.mark) := by
  rw [Decl.tally_map_mark, Decl.tally_map_mark, ← Decl.tally_add]
  refine Decl.tally_mono (fun d => ?_) ds
  have hlength : (N.danglingIssues d).length = (N.danglingNames d).length := List.length_map _
  rw [N.danglingNames_mark, Decl.diagnosticCount, N.mark_eq, ← hlength]
  exact Issue.length_attachAll_le d.diagnostics (N.danglingIssues d)

/-- What keeps its diagnostics but for those that are not counted does so when it is marked. -/
theorem Decl.Throughout.mark {d d' : Decl} (h : d.Throughout (KeepsReported N) d') :
    d.Throughout (KeepsReported N) (N.mark d') := by
  refine h.induction (P := fun d d' => d.Throughout (KeepsReported N) (N.mark d')) ?_
  intro d d' hhere hbelow
  refine .node hhere.mark ?_
  rw [N.children_mark, List.forall₂_map_right_iff]
  exact hbelow

/-! ## Whole runs -/

theorem roots_verify (default : CallingConvention) (L : Library) :
    (verify default L).roots = (L.checked default).roots.map (verify default L).mark := by
  rw [Library.mark_congr (contains_verify default L), verify_eq]
  rfl

/-- **A run attaches no more diagnostics than it counts, but for two kinds of errors**: one for each
declaration that is not supported and has no error, and one for each name by which a declaration
refers to nothing.  A run that counts nothing leaves every declaration at its position, and all that
it attaches there is of these two kinds. -/
theorem verify_accounts_for_diagnostics (default : CallingConvention) (L : Library)
    (earlier : Nat) :
    let (M, reported) := (verification default).run L earlier
    M.diagnosticCount
      ≤ L.diagnosticCount + reported + L.unexplainedCount + M.danglingCount ∧
    (reported = 0 →
      ∀ path, Option.Rel (Decl.KeepsReported M) (L.declAt? path) (M.declAt? path)) := by
  have hfirst := accounted_applyAll default (verify default L) (.root L) L.roots
    ⟨.startingAt L.nextId, 0⟩
  show (verify default L).diagnosticCount ≤ _ ∧ _
  constructor
  · have htotal := hfirst.total
    have hmarked := tally_map_mark_le (verify default L) (L.checked default).roots
    rw [← roots_verify] at hmarked
    exact Nat.le_trans hmarked (Nat.add_le_add_right htotal _)
  · intro hnone
    refine Decl.rel_declBelow? ?_
    show List.Forall₂ _ L.roots (verify default L).roots
    rw [roots_verify, List.forall₂_map_right_iff]
    exact (hfirst.quiet hnone).imp fun _ _ h => h.mark

namespace Sample

/-- A record with one field, the type of which refers to nothing. -/
def dangling : Library :=
  .ofRoots ["include/holder.h"] [
    .ofKind 2 "Holder" 0 (.record (.ofMembers [
      .ofKind 1 "next" 0 (.field 0 (.normal (.decl ⟨9, "Gone"⟩)))]))] 3

end Sample

/-- A run can attach an error without counting it. -/
theorem verify_attaches_uncounted :
    let (M, reported) := (verification .c).run Sample.dangling 0
    reported = 0 ∧ M.diagnosticCount = Sample.dangling.diagnosticCount + 1 ∧
    (M.declAt? [0, 0]).map Decl.diagnostics
      = some [⟨.error, "type reference `Gone` does not resolve to a declaration"⟩] := by
  decide +kernel

/-- The field of that record keeps its diagnostics, but for what is not counted. -/
theorem verify_accounts_for_diagnostics_dangling :
    let (M, reported) := (verification .c).run Sample.dangling 0
    reported = 0 ∧
      Option.Rel (Decl.KeepsReported M) (Sample.dangling.declAt? [0, 0]) (M.declAt? [0, 0]) := by
  have hreported : ((verification .c).run Sample.dangling 0).2 = 0 := by decide +kernel
  exact ⟨hreported, (verify_accounts_for_diagnostics .c Sample.dangling 0).2 hreported [0, 0]⟩

end NativeApi

import NativeApi.Proofs.Verify.Placement

/-!
# Verification is idempotent

Verified twice is verified once (`verify_verify`).  A second run meets every declaration in a place
that has kept what the first run relied on (`Counterpart.precedes`), so neither of its walks has
anything to say, and by `Pass.run_of_keeps` the library stays as it is.
-/

namespace NativeApi

variable {default : CallingConvention} {L N : Library}

/-! ## The two walks -/

theorem Settles.handlesSettled {above : List Decl} {d d' : Decl}
    (h : Settles default L N above d d') : d'.kind.HandlesSettled := by
  obtain ⟨parts, hparts, rfl⟩ := h.exists_parts
  refine Context.handlesSettled_repairedKind _ (Decl.handlesSettled_withSettled ?_)
  exact SettledPart.forall₂_continues ⟨L, above⟩ hparts.originals hparts.wraps
    fun p hp => (hparts.settles p hp).continues

theorem keeps_verification {ctx : Context} {d : Decl} (hhandles : d.kind.HandlesSettled)
    (hcheck : ctx.check default d = d) (hneeds : ctx.needsContainer d = false) :
    (verification default).Keeps ctx d where
  handles := hhandles
  ownType s := by rw [Pass.applyOwnType_of_silent (fun _ _ _ => rfl)]
  ownType_ids s := by rw [Pass.applyOwnType_of_silent (fun _ _ _ => rfl)]
  answer s := by
    rw [verification_decl, hneeds, hcheck]
    rfl
  answer_ids s := by
    rw [verification_decl, hneeds]
    rfl

theorem keeps_danglingReferences {ctx : Context} {d : Decl} (hhandles : d.kind.HandlesSettled)
    (h : ∀ issue ∈ ctx.library.danglingIssues d, d.diagnostics.Records issue) :
    danglingReferences.Keeps ctx d where
  handles := hhandles
  ownType s := by rw [Pass.applyOwnType_of_silent (fun _ _ _ => rfl)]
  ownType_ids s := by rw [Pass.applyOwnType_of_silent (fun _ _ _ => rfl)]
  answer s := by
    rw [danglingReferences_decl, Diagnostics.attachAll_eq_self h]
    exact congrArg (fun e => [e]) (Decl.eta d)
  answer_ids s := rfl

theorem Settles.records_danglingIssues {above : List Decl} {d d' : Decl}
    (h : Settles default L N above d d') :
    ∀ issue ∈ N.danglingIssues d', d'.diagnostics.Records issue := by
  obtain ⟨parts, _, rfl⟩ := h.exists_parts
  intro issue hissue
  have hsame : N.danglingIssues ((Context.mk L above).settle default N
      (d.withSettled (parts.map SettledPart.result)))
      = N.danglingIssues (d.withSettled (parts.map SettledPart.result)) :=
    Context.danglingIssues_check _ default N _
  rw [hsame] at hissue
  rw [Context.diagnostics_settle]
  exact Diagnostics.records_attachAll (List.mem_append_right _ hissue) _

/-- Both walks keep a settled declaration. -/
theorem Counterpart.keeps {v v' : Visit} (hcounter : Counterpart default L N v v')
    (htypes : SameTypes L N) (hdistinct : L.SiblingIdsDistinct) (hv : v ∈ L.visits) :
    (verification default).Keeps ⟨N, v'.above⟩ v'.decl ∧
      danglingReferences.Keeps ⟨N, v'.above⟩ v'.decl := by
  have hhandles := hcounter.settles.handlesSettled
  obtain ⟨parts, _, hsettled⟩ := hcounter.settles.exists_parts
  have hprecedes := (hcounter.precedes (M := N) hdistinct hv).withSettled
    (parts.map SettledPart.result)
  have hcheck : (Context.mk N v'.above).check default v'.decl = v'.decl := by
    rw [hsettled]
    exact Context.check_settle default N htypes hprecedes
  have hneeds : (Context.mk N v'.above).needsContainer v'.decl = false := by
    rw [hsettled]
    exact Context.needsContainer_repair htypes hprecedes
  exact ⟨keeps_verification hhandles hcheck hneeds,
    keeps_danglingReferences hhandles hcounter.settles.records_danglingIssues⟩

/-- Both walks keep a container. -/
theorem Enclosure.keeps {v v' : Visit} (henclosure : Enclosure default L N v v') :
    (verification default).Keeps ⟨N, v'.above⟩ v'.decl ∧
      danglingReferences.Keeps ⟨N, v'.above⟩ v'.decl := by
  have hlevel := henclosure.allowsLevel
  cases henclosure with
  | @intro above above' ds parts part id hs hpart hsome =>
    have hissues : (Context.mk N above').accessibilityIssues (enumContainer id part.settled) = [] :=
      hlevel.accessibilityIssues_eq_nil
    have hrepaired : (Context.mk N above').repairedAccessibility (enumContainer id part.settled)
        = part.settled.accessibility := hlevel.repairedAccessibility_eq
    have hcheck : (Context.mk N above').check default (enumContainer id part.settled)
        = enumContainer id part.settled := by
      rw [Context.check, Context.issues, hissues, Context.repair, hrepaired]
      rfl
    exact ⟨keeps_verification rfl hcheck rfl,
      keeps_danglingReferences rfl fun _ hissue => absurd hissue List.not_mem_nil⟩

/-! ## Idempotence -/

/-- **Verification is idempotent.** -/
theorem verify_verify (default : CallingConvention) (L : Library) (h : L.TreeIdsSound) :
    verify default (verify default L) = verify default L := by
  have htypes := sameTypes_verify h default
  have hdistinct := Library.siblingIdsDistinct_of_nodup h.distinct
  have hkeeps : ∀ v' ∈ (verify default L).visits,
      (verification default).Keeps ⟨verify default L, v'.above⟩ v'.decl ∧
        danglingReferences.Keeps ⟨verify default L, v'.above⟩ v'.decl := by
    intro v' hv'
    obtain ⟨v, hv, hcounter | henclosure⟩ := mem_visits_verify default L v' hv'
    · exact hcounter.keeps htypes hdistinct hv
    · exact henclosure.keeps
  have hone := one_le_nextId_verify default L
  obtain ⟨found, hrules⟩ := (verification default).run_of_keeps hone
    (fun v' hv' => (hkeeps v' hv').1) 0
  obtain ⟨_, hreferences⟩ := danglingReferences.run_of_keeps hone
    (fun v' hv' => (hkeeps v' hv').2) ()
  rw [verify, hrules]
  show (danglingReferences.run (verify default L) ()).1 = verify default L
  rw [hreferences]
  rfl

theorem verify_verify_sample : Sample.library.TreeIdsSound ∧
    verify .c (verify .c Sample.library) = verify .c Sample.library :=
  have h : Sample.library.TreeIdsSound := ⟨by decide +kernel, by decide +kernel⟩
  ⟨h, verify_verify .c Sample.library h⟩

end NativeApi

import NativeApi.Proofs.Conservation.Runs

/-!
# Passes that are used again

An instance of a pass lives on after a run, with its counters and whatever else it keeps.  A run
starts by setting all of that back, so it does not matter how often an instance was used before,
nor on what.

* `Pass.SetsBack`: a run does not depend on the state that it starts from.
* `PassInstance.fresh`, `Pipeline.fresh`: the same as if it had just been made.
* `PassInstance.usedOn`, `Pipeline.outcomes`: what is left after runs over libraries, and what such
  runs give.
* `Library.StemsFrom`: everything in a library comes from another one.
* `runs_keep_no_memory`: **an instance that was used gives what a fresh one gives**.
-/

namespace NativeApi

/-! ## Passes -/

/-- A run of the pass starts in the same state, whatever state the last run left. -/
def Pass.SetsBack {σ : Type} (p : Pass σ) : Prop :=
  ∀ L state state', p.before L state = p.before L state'

theorem Pass.SetsBack.run_eq {σ : Type} {p : Pass σ} (h : p.SetsBack) (L : Library)
    (state state' : σ) : p.run L state = p.run L state' := by
  rw [Pass.run_eq, Pass.run_eq, h L state state']

theorem setsBack_verification (default : CallingConvention) : (verification default).SetsBack :=
  fun _ _ _ => rfl

theorem setsBack_looseWrapping : looseWrapping.SetsBack := fun _ _ _ => rfl

theorem setsBack_extraction : extraction.SetsBack := fun _ _ _ => rfl

/-! ## Instances of passes -/

namespace PassInstance

def fresh : PassInstance → PassInstance
  | verify config _ => freshVerify config
  | wrapLoose _ => freshWrapLoose
  | extractBroken _ => freshExtractBroken
  | stripTypedefs => stripTypedefs

/-- An instance after runs over libraries, one after the other. -/
def usedOn (p : PassInstance) (earlier : List Library) : PassInstance :=
  earlier.foldl (fun p L => (p.run L).2) p

theorem run_fresh (p : PassInstance) (L : Library) : p.fresh.run L = p.run L := by
  cases p with
  | verify config reported =>
    exact congrArg (fun done : Library × Nat => (done.1, verify config done.2))
      ((setsBack_verification config.defaultConvention).run_eq L 0 reported)
  | wrapLoose wrapped =>
    exact congrArg (fun done : Library × Nat => (done.1, wrapLoose done.2))
      (setsBack_looseWrapping.run_eq L 0 wrapped)
  | extractBroken extracted =>
    exact congrArg (fun done : Library × List Decl => (done.1, extractBroken done.2))
      (setsBack_extraction.run_eq L [] extracted)
  | stripTypedefs => rfl

theorem fresh_run (p : PassInstance) (L : Library) : (p.run L).2.fresh = p.fresh := by
  cases p <;> rfl

theorem fresh_usedOn (p : PassInstance) (earlier : List Library) :
    (p.usedOn earlier).fresh = p.fresh := by
  induction earlier generalizing p with
  | nil => rfl
  | cons L earlier ih => exact (ih (p.run L).2).trans (p.fresh_run L)

/-- **The next run of an instance is a run of a fresh one.** -/
theorem run_usedOn (p : PassInstance) (earlier : List Library) (L : Library) :
    (p.usedOn earlier).run L = p.fresh.run L := by
  rw [← run_fresh, fresh_usedOn]

theorem runAll_cons (L : Library) (p : PassInstance) (rest : List PassInstance) :
    runAll L (p :: rest)
      = ((runAll (p.run L).1 rest).1, (p.run L).2 :: (runAll (p.run L).1 rest).2) := rfl

theorem runAll_fresh (L : Library) (passes : List PassInstance) :
    runAll L (passes.map fresh) = runAll L passes := by
  induction passes generalizing L with
  | nil => rfl
  | cons p rest ih => rw [List.map_cons, runAll_cons, runAll_cons, run_fresh, ih]

theorem fresh_runAll (L : Library) (passes : List PassInstance) :
    (runAll L passes).2.map fresh = passes.map fresh := by
  induction passes generalizing L with
  | nil => rfl
  | cons p rest ih => exact congrArg₂ List.cons (p.fresh_run L) (ih (p.run L).1)

end PassInstance

/-! ## Pipelines -/

namespace Pipeline

def fresh (p : Pipeline) : Pipeline := { p with passes := p.passes.map PassInstance.fresh }

def outcomes (p : Pipeline) : List Library → List (Except PipelineError Library)
  | [] => []
  | L :: rest => (p.run L).1 :: (p.run L).2.outcomes rest

/-- The library after the last pass, whether or not the run failed. -/
def result : Except PipelineError Library → Library
  | .ok M => M
  | .error (.errorsRemain _ M) => M

theorem result_run (p : Pipeline) (L : Library) :
    result (p.run L).1 = (PassInstance.runAll L p.passes).1 := by
  rw [run]
  dsimp only
  split <;> rfl

theorem run_fresh (p : Pipeline) (L : Library) : p.fresh.run L = p.run L := by
  rw [run, run, fresh, PassInstance.runAll_fresh]

theorem fresh_run (p : Pipeline) (L : Library) : (p.run L).2.fresh = p.fresh := by
  rw [run, fresh, fresh]
  exact congrArg (Pipeline.mk · p.abortOnErrors) (PassInstance.fresh_runAll L p.passes)

/-- **Each run of a pipeline is a run of a fresh one.** -/
theorem outcomes_eq (p : Pipeline) (Ls : List Library) :
    p.outcomes Ls = Ls.map fun L => (p.fresh.run L).1 := by
  induction Ls generalizing p with
  | nil => rfl
  | cons L rest ih => rw [outcomes, List.map_cons, ih, p.fresh_run, p.run_fresh]

theorem fresh_ofConfig (config : PipelineConfig) : (ofConfig config).fresh = ofConfig config := by
  rw [fresh, ofConfig]
  cases config.extractBroken <;> rfl

end Pipeline

/-! ## Where declarations come from -/

/-- Everything in a library, in the trees or broken, continues something in another one, or is a
container for loose declarations with an id that was unused there. -/
def Library.StemsFrom (M L : Library) : Prop :=
  ∀ d' ∈ M.inventory, (∃ d ∈ L.inventory, d.Continues d') ∨
    d'.kind.form = .container .looseDeclarations ∧ L.nextId ≤ d'.id

theorem Library.Evolves.stemsFrom {L M : Library} (h : L.Evolves M) : M.StemsFrom L := by
  intro d' hd'
  rcases h.conserves.origin hd' with hold | ⟨hform, hunused, _⟩
  · exact .inl hold
  · exact .inr ⟨hform, Nat.le_trans (Nat.le_max_left ..) hunused⟩

/-! ## Runs -/

/-- **Passes keep no memory between runs.**  An instance of a pass that was used on any libraries
gives on the next one what a fresh instance gives, and leaves the same counters.  A pipeline gives
on each of a sequence of libraries what the freshly made pipeline gives.  Nothing in the outcome
comes from a library before. -/
theorem runs_keep_no_memory :
    (∀ (p : PassInstance) (earlier : List Library) (L : Library),
      let used := (p.usedOn earlier).run L
      let new := p.fresh.run L
      used.1 = new.1 ∧ used.2.reported = new.2.reported ∧ used.2.wrapped = new.2.wrapped ∧
        used.1.StemsFrom L) ∧
    (∀ (p : Pipeline) (Ls : List Library),
      p.outcomes Ls = Ls.map (fun L => (p.fresh.run L).1) ∧
        List.Forall₂ (fun L outcome => (Pipeline.result outcome).StemsFrom L) Ls
          (p.outcomes Ls)) ∧
    ∀ config, (Pipeline.ofConfig config).fresh = .ofConfig config := by
  refine ⟨fun p earlier L => ?_, fun p Ls => ⟨p.outcomes_eq Ls, ?_⟩, Pipeline.fresh_ofConfig⟩
  · have hrun := p.run_usedOn earlier L
    exact ⟨congrArg Prod.fst hrun, congrArg (fun done => done.2.reported) hrun,
      congrArg (fun done => done.2.wrapped) hrun,
      (PassInstance.evolves_run L (p.usedOn earlier)).stemsFrom⟩
  · rw [p.outcomes_eq, List.forall₂_map_right_iff, List.forall₂_same]
    intro L _
    rw [Pipeline.result_run]
    exact (PassInstance.evolves_runAll L p.fresh.passes).stemsFrom

end NativeApi

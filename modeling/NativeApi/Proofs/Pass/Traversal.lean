import Mathlib.Data.List.Perm.Basic
import NativeApi.Proofs.Pass.Run

/-!
# Traversals

Which calls of its hook for declarations a run makes.  The calls are noted by a pass that does what
another one does and keeps a list (`Pass.recording`); noting them changes nothing else
(`Pass.alike_applyAll`).  Whatever the hooks answer, the calls are made for the declarations of the
library as it was, each once and in post-order.

* `Library.postVisits`: the visits of a library, the children before their parent.
* `Traversal`: the calls for some siblings, with what the siblings became.  Each call is for a
  declaration in its old place that has become the parent of what its children became.
* `Traversal.forall₂_postVisits`: such calls are made for the visits in post-order.
* `Pass.run_traverses`: the calls of a run are a traversal of the library.
-/

namespace NativeApi

/-! ## Post-order -/

/-- The visits of a declaration and of everything inside it, below the given enclosing
declarations, the children before their parent. -/
def Decl.postVisits (above : List Decl) (d : Decl) : List Visit :=
  (d.children.attach.flatMap fun ⟨c, _⟩ => c.postVisits (d :: above)) ++ [⟨above, d⟩]
termination_by sizeOf d
decreasing_by exact sizeOf_lt_of_mem_children ‹_›

theorem Decl.postVisits_eq (above : List Decl) (d : Decl) :
    d.postVisits above = d.children.flatMap (postVisits (d :: above)) ++ [⟨above, d⟩] := by
  rw [postVisits]
  simp

theorem Decl.postVisits_perm (above : List Decl) (d : Decl) :
    (d.postVisits above).Perm (d.visits above) := by
  induction d using induction generalizing above with
  | step d ih =>
    rw [postVisits_eq, visits_eq]
    have hchildren : (d.children.flatMap (postVisits (d :: above))).Perm
        (d.children.flatMap (visits (d :: above))) := by
      refine List.Perm.flatMap_left _ fun c hc => ?_
      exact ih c hc (d :: above)
    exact (List.perm_append_singleton _ _).trans (hchildren.cons _)

/-- The visits of every declaration in the trees, the children before their parent. -/
def Library.postVisits (L : Library) : List Visit := L.roots.flatMap (Decl.postVisits [])

theorem Library.postVisits_perm (L : Library) : L.postVisits.Perm L.visits := by
  refine List.Perm.flatMap_left _ fun d _ => ?_
  exact d.postVisits_perm []

/-! ## Calls -/

structure Call where
  ctx : Context
  given : Decl
  answer : Answer

namespace Call

def results (c : Call) : List Decl := c.answer.decls c.given

/-- The id of the declaration, and the ids of the enclosing declarations, the root first. -/
def place (c : Call) : DeclId × List DeclId := (c.given.id, c.ctx.ancestors.map Decl.id)

/-- A call is for a visit of a library: it is made in the place of the visit, with the visited
declaration up to its kind. -/
structure IsFor (L : Library) (c : Call) (v : Visit) : Prop where
  library : c.ctx.library = L
  ancestors : c.ctx.ancestors = v.ancestors
  given : c.given = { v.decl with kind := c.given.kind }

theorem IsFor.place_eq {L : Library} {c : Call} {v : Visit} (h : c.IsFor L v) :
    c.place = (v.decl.id, v.ancestors.map Decl.id) := by
  rw [place, h.given, h.ancestors]

end Call

/-- The calls for siblings in a place, with what the siblings became.  The calls for what is inside
a sibling come first; then the sibling itself is given, with what its children became as its
children; and what is answered takes its place. -/
inductive Traversal : Context → List Decl → List Call → List Decl → Prop
  | nil {ctx : Context} : Traversal ctx [] [] []
  | cons {ctx : Context} {d : Decl} {rest children news : List Decl} {inner calls : List Call}
      {call : Call} : Traversal (ctx.enter d) d.children inner children →
      call.IsFor ctx.library ⟨ctx.above, d⟩ → call.given.children = children →
      Traversal ctx rest calls news →
      Traversal ctx (d :: rest) (inner ++ call :: calls) (call.results ++ news)

namespace Traversal

variable {ctx : Context} {ds news : List Decl} {calls : List Call}

theorem append {ds' news' : List Decl} {calls' : List Call} (h : Traversal ctx ds calls news)
    (h' : Traversal ctx ds' calls' news') :
    Traversal ctx (ds ++ ds') (calls ++ calls') (news ++ news') := by
  induction h with
  | nil => exact h'
  | @cons ctx d rest children news inner calls call hinner hfor hchildren _ _ ih =>
    rw [List.append_assoc, List.append_assoc, List.cons_append, List.cons_append]
    exact .cons hinner hfor hchildren (ih h')

/-- **The calls of a traversal are made for the visits in post-order.** -/
theorem forall₂_postVisits (h : Traversal ctx ds calls news) :
    List.Forall₂ (Call.IsFor ctx.library) calls (ds.flatMap (Decl.postVisits ctx.above)) := by
  induction h with
  | nil => exact .nil
  | cons _ hfor _ _ ihinner ihrest =>
    rw [List.flatMap_cons, Decl.postVisits_eq, List.append_assoc]
    exact List.rel_append ihinner (.cons hfor ihrest)

end Traversal

/-! ## Noting calls -/

namespace PassM

variable {σ τ ρ α β : Type}

/-- The same steps where the state holds something besides. -/
def alongside (x : PassM σ α) : PassM (σ × ρ) α := fun s =>
  let (a, done) := x ⟨s.ids, s.state.1⟩
  (a, ⟨done.ids, (done.state, s.state.2)⟩)

/-- Two ways to go on are alike: from related progress they come to related progress, with the same
result. -/
def Alike (R : Progress σ → Progress τ → Prop) (x : PassM σ α) (y : PassM τ α) : Prop :=
  ∀ s t, R s t → (x s).1 = (y t).1 ∧ R (x s).2 (y t).2

variable {R : Progress σ → Progress τ → Prop}

theorem Alike.pure (a : α) : Alike R (pure a) (pure a) := fun _ _ h => ⟨rfl, h⟩

theorem Alike.bind {x : PassM σ α} {y : PassM τ α} {f : α → PassM σ β} {g : α → PassM τ β}
    (h : Alike R x y) (hnext : ∀ a, Alike R (f a) (g a)) : Alike R (x >>= f) (y >>= g) := by
  intro s t hst
  obtain ⟨hresult, hdone⟩ := h s t hst
  rw [Pass.bind_apply, Pass.bind_apply, hresult]
  exact hnext _ _ _ hdone

end PassM

namespace Pass

variable {σ τ : Type}

section Alike

open PassM (Alike)

variable {p : Pass σ} {q : Pass τ} {R : Progress σ → Progress τ → Prop}

mutual

theorem alike_applyType (htype : ∀ ctx type, Alike R (p.type? ctx type) (q.type? ctx type))
    (ctx : Context) : (type : TypeRef) → Alike R (p.applyType ctx type) (q.applyType ctx type)
  | .pointer target => by
    unfold applyType
    refine (htype ctx _).bind fun answer => ?_
    cases answer with
    | some answer => exact .pure answer
    | none => exact (alike_applyType htype ctx target).bind fun _ => .pure _
  | .function result parameters convention => by
    unfold applyType
    refine (htype ctx _).bind fun answer => ?_
    cases answer with
    | some answer => exact .pure answer
    | none =>
      exact (alike_applyType htype ctx result).bind fun _ =>
        (alike_applyTypes htype ctx parameters).bind fun _ => .pure _
  | .void | .scalar _ | .decl _ | .native _ => by
    unfold applyType
    refine (htype ctx _).bind fun answer => ?_
    cases answer <;> exact .pure _

theorem alike_applyTypes (htype : ∀ ctx type, Alike R (p.type? ctx type) (q.type? ctx type))
    (ctx : Context) :
    (types : List TypeRef) → Alike R (p.applyTypes ctx types) (q.applyTypes ctx types)
  | [] => by
    unfold applyTypes
    exact .pure _
  | type :: rest => by
    unfold applyTypes
    exact (alike_applyType htype ctx type).bind fun _ =>
      (alike_applyTypes htype ctx rest).bind fun _ => .pure _

end

theorem alike_applyOwnType (htype : ∀ ctx type, Alike R (p.type? ctx type) (q.type? ctx type))
    (ctx : Context) (k : Kind Decl) : Alike R (p.applyOwnType ctx k) (q.applyOwnType ctx k) := by
  rw [applyOwnType_eq_bind, applyOwnType_eq_bind]
  cases k.type? with
  | none => exact .pure _
  | some type => exact (alike_applyType htype ctx type).bind fun _ => .pure _

/-- **Passes whose hooks are alike run alike.** -/
theorem alike_applyAll (htype : ∀ ctx type, Alike R (p.type? ctx type) (q.type? ctx type))
    (hdecl : ∀ ctx d, Alike R (p.decl ctx d) (q.decl ctx d)) :
    (∀ ctx d, Alike R (p.applyDecl ctx d) (q.applyDecl ctx d)) ∧
      ∀ ctx ds, Alike R (p.applyAll ctx ds) (q.applyAll ctx ds) := by
  apply Pass.applyDecl.mutual_induct
  case case1 =>
    intro ctx d ih
    rw [applyDecl, applyDecl]
    exact (alike_applyOwnType htype ctx d.kind).bind fun _ => ih.bind fun _ =>
      (hdecl ctx _).bind fun _ => .pure _
  case case2 =>
    intro ctx
    rw [applyAll, applyAll]
    exact .pure _
  case case3 =>
    intro ctx d rest ihd ihrest
    rw [applyAll, applyAll]
    exact ihd.bind fun _ => ihrest.bind fun _ => .pure _

end Alike

/-- The pass that does what another one does and notes the calls of its hook for declarations.  It
has no last step, so a run of it ends with the library that the last step would be given. -/
def recording (p : Pass σ) : Pass (σ × List Call) where
  name := p.name
  before L s := (p.before L s.1, [])
  type? ctx type := (p.type? ctx type).alongside
  decl ctx d := do
    let answer ← (p.decl ctx d).alongside
    PassM.update fun s => (s.1, s.2 ++ [⟨ctx, d, answer⟩])
    return answer

/-- Progress is the same but for what the state holds besides. -/
def SameButNotes {ρ : Type} (s : Progress (σ × ρ)) (t : Progress σ) : Prop :=
  s.ids = t.ids ∧ s.state.1 = t.state

theorem alike_alongside {α ρ : Type} (x : PassM σ α) :
    PassM.Alike SameButNotes (x.alongside : PassM (σ × ρ) α) x := by
  rintro ⟨ids, state, notes⟩ ⟨ids', state'⟩ ⟨hids, hstate⟩
  obtain rfl : ids = ids' := hids
  obtain rfl : state = state' := hstate
  exact ⟨rfl, rfl, rfl⟩

theorem alike_recording (p : Pass σ) (ctx : Context) (ds : List Decl) :
    PassM.Alike SameButNotes (p.recording.applyAll ctx ds) (p.applyAll ctx ds) := by
  refine (alike_applyAll (fun ctx type => alike_alongside _) fun ctx d s t h => ?_).2 ctx ds
  exact alike_alongside (p.decl ctx d) s t h

theorem run_recording (p : Pass σ) (L : Library) (state : σ) (calls : List Call) :
    let done := p.recording.run L (state, calls)
    p.run L state = p.after done.1 done.2.1 := by
  obtain ⟨hresult, hids, hstate⟩ := p.alike_recording (.root L) L.roots
    ⟨.startingAt L.nextId, p.before L state, []⟩ ⟨.startingAt L.nextId, p.before L state⟩ ⟨rfl, rfl⟩
  rw [run_eq, run_eq]
  dsimp only
  rw [← hresult, ← hids, ← hstate]
  rfl

/-! ## The calls of a run -/

theorem notes_applyOwnType (p : Pass σ) (ctx : Context) (k : Kind Decl)
    (s : Progress (σ × List Call)) :
    (p.recording.applyOwnType ctx k s).2.state.2 = s.state.2 :=
  applyOwnType_step (p := p.recording) (R := fun s s' => s'.state.2 = s.state.2) (fun _ => rfl)
    (fun h h' => h'.trans h) (fun _ _ _ => rfl) ctx k s

theorem notes_decl (p : Pass σ) (ctx : Context) (d : Decl) (s : Progress (σ × List Call)) :
    (p.recording.decl ctx d s).2.state.2
      = s.state.2 ++ [⟨ctx, d, (p.recording.decl ctx d s).1⟩] := rfl

theorem traversal_applyAll (p : Pass σ) (ctx : Context) (ds : List Decl)
    (s : Progress (σ × List Call)) :
    ∃ calls, (p.recording.applyAll ctx ds s).2.state.2 = s.state.2 ++ calls ∧
      Traversal ctx ds calls ((p.recording.applyAll ctx ds s).1.flatMap Prod.snd) := by
  have key := run_induction (p := p.recording)
    (P := fun ctx d s news s' =>
      ∃ calls, s'.state.2 = s.state.2 ++ calls ∧ Traversal ctx [d] calls news)
    (Q := fun ctx ds s replacements s' =>
      ∃ calls, s'.state.2 = s.state.2 ++ calls ∧
        Traversal ctx ds calls (replacements.flatMap Prod.snd))
    (fun _ s => ⟨[], (List.append_nil _).symm, .nil⟩) ?cons ?decl
  case cons =>
    rintro ctx d rest s news s' replacements s'' ⟨calls, hcalls, hd⟩ ⟨calls', hcalls', hrest⟩
    refine ⟨calls ++ calls', ?_, ?_⟩
    · rw [hcalls', hcalls, List.append_assoc]
    · rw [List.flatMap_cons]
      exact hd.append hrest
  case decl =>
    rintro ctx d s kind s₁ replacements s₂ answer s₃ hown hall ⟨inner, hinner, hchildren⟩ hanswer
    have hnotes : s₁.state.2 = s.state.2 := by rw [← notes_applyOwnType p ctx d.kind s, hown]
    have hkids : kind.children = d.children := by
      rw [show d.children = d.kind.children from rfl,
        ← p.recording.children_applyOwnType ctx d.kind s, hown]
    have hfst : replacements.map Prod.fst = kind.children := by
      rw [hkids, ← p.recording.map_fst_applyAll (ctx.enter d) d.children s₁, hall]
    let call : Call := ⟨ctx, { d with kind := kind.rebuild replacements }, answer⟩
    -- the children have noted their calls when the declaration notes its own
    refine ⟨inner ++ [call], ?_, ?_⟩
    · have hnoted := notes_decl p ctx call.given s₂
      rw [hanswer] at hnoted
      rw [hnoted, hinner, hnotes, List.append_assoc]
    · have hfor : call.IsFor ctx.library ⟨ctx.above, d⟩ := ⟨rfl, rfl, rfl⟩
      have hgiven : call.given.children = replacements.flatMap Prod.snd :=
        Kind.children_rebuild hfst
      have := Traversal.cons hchildren hfor hgiven .nil
      rwa [List.append_nil] at this
  exact key.2 ctx ds s

/-- What a run over a library notes is a traversal, from which the new roots come. -/
theorem traversal_recording (p : Pass σ) (L : Library) (state : σ) :
    Traversal (.root L) L.roots (p.recording.run L (state, [])).2.2
      (p.recording.run L (state, [])).1.roots := by
  obtain ⟨calls, hcalls, htraversal⟩ := p.traversal_applyAll (.root L) L.roots
    ⟨.startingAt L.nextId, p.before L state, []⟩
  rw [List.nil_append] at hcalls
  rw [← hcalls] at htraversal
  exact htraversal

theorem map_place_recording (p : Pass σ) (L : Library) (state : σ) :
    (p.recording.run L (state, [])).2.2.map Call.place
      = L.postVisits.map fun v => (v.decl.id, v.ancestors.map Decl.id) := by
  refine List.forall₂_eq_eq_eq ▸ ?_
  rw [List.forall₂_map_left_iff, List.forall₂_map_right_iff]
  exact (p.traversal_recording L state).forall₂_postVisits.imp fun _ _ h => h.place_eq

/-- **Every declaration of a library is called for once, children before their parent.**  The calls
are made for the visits in post-order, each with the ancestors in the library as it was.  What is
given is the visited declaration up to its kind, and its children are what the children were
rewritten to.  What the roots were rewritten to is given to the last step.  So where the calls are
made is the same for all passes. -/
theorem run_traverses (p : Pass σ) (L : Library) (state : σ) :
    let done := p.recording.run L (state, [])
    let calls := done.2.2
    p.run L state = p.after done.1 done.2.1 ∧
    Traversal (.root L) L.roots calls done.1.roots ∧
    List.Forall₂ (Call.IsFor L) calls L.postVisits ∧ L.postVisits.Perm L.visits ∧
    ∀ {τ : Type} (q : Pass τ) (state' : τ),
      (q.recording.run L (state', [])).2.2.map Call.place = calls.map Call.place := by
  intro done calls
  have htraversal := p.traversal_recording L state
  refine ⟨p.run_recording L state [], htraversal, htraversal.forall₂_postVisits,
    L.postVisits_perm, ?_⟩
  intro τ q state'
  rw [q.map_place_recording L state', p.map_place_recording L state]

end Pass

end NativeApi

import NativeApi.Library.Builder
import NativeApi.Proofs.Library.Lookup
import NativeApi.Proofs.Pass.Ledger

/-!
# Libraries that were built

While a library is built, trees lie in registers until a later call places them, inside another
declaration or as a root.  Declarations are numbered in the order in which they are made, so that
`placements` tells from the calls alone which of them are placed where a register was filled twice.

As long as the calls make declarations by the helpers and place none of them twice, every
declaration that was made is either in a tree of the library or inside one that was not placed yet,
and it is there once (`Builder.Coherent`).  One call keeps this (`Builder.Coherent.run`), and so
does any sequence of calls.

* `Registers.perm_takeAll`: children that are taken from registers are no longer to be placed.
* `BuilderCall.library_sound`: **what the helpers build is sound**.
-/

namespace NativeApi

/-! ## Calls that place declarations -/

namespace DeclSpec

/-- Whether the kind of the declaration is given as it is, and not made by a helper. -/
def isRaw : DeclSpec → Bool
  | any .. => true
  | _ => false

def sources : DeclSpec → List String
  | record _ members | container _ _ members => members
  | function _ parameters | method _ parameters => parameters
  | enumeration _ _ constants => constants
  | undefinedRecord _ | field .. | baseField .. | vtableField | bitField .. | unimplementedField ..
  | staticField .. | vtable _ | parameter .. | enumConstant .. | typedef .. | unsupported ..
  | any .. => []

end DeclSpec

namespace BuilderCall

/-- Whether a call is one of the helpers: declarations are neither given as they are nor changed. -/
def isHelper : BuilderCall → Bool
  | make _ spec => !spec.isRaw
  | change .. => false
  | addFile _ | freshId | push _ => true

def targets : BuilderCall → List String
  | make register _ | change register .. => [register]
  | addFile _ | freshId | push _ => []

def sources : BuilderCall → List String
  | make _ spec => spec.sources
  | push register => [register]
  | addFile _ | freshId | change .. => []

end BuilderCall

/-- The number of the declaration that a register holds, by the registers that were filled so far,
the latest first. -/
def numberIn? (register : String) : List String → Option Nat
  | [] => none
  | latest :: earlier =>
    if latest = register then some earlier.length else numberIn? register earlier

def numbersIn (filled registers : List String) : List Nat :=
  registers.filterMap (numberIn? · filled)

/-- The numbers of the declarations that calls place, in the order in which they do. -/
def placements (filled : List String) : List BuilderCall → List Nat
  | [] => []
  | call :: calls => numbersIn filled call.sources ++ placements (call.targets ++ filled) calls

/-! ## Registers -/

theorem lt_length_of_numberIn? {register : String} {filled : List String} {k : Nat}
    (h : numberIn? register filled = some k) : k < filled.length := by
  induction filled with
  | nil => exact absurd h nofun
  | cons latest earlier ih =>
    rw [numberIn?] at h
    split at h
    · simp only [Option.some.injEq] at h
      simp [← h]
    · have := ih h
      rw [List.length_cons]
      omega

namespace Registers

variable {registers : Registers} {register : String} {d : Decl} {k : Nat} {placed : List Nat}

/-- The registers that were filled, the latest first. -/
def filled (registers : Registers) : List String := registers.map Prod.fst

/-- The declarations that were made and not placed, given the numbers of those that were. -/
def unplaced (placed : List Nat) : Registers → List Decl
  | [] => []
  | (_, d) :: earlier =>
    if earlier.length ∈ placed then unplaced placed earlier else d :: unplaced placed earlier

theorem get?_cons (name register : String) (d : Decl) (registers : Registers) :
    get? ((name, d) :: registers) register
      = if name = register then some d else registers.get? register := by
  simp only [get?, List.find?_cons]
  split <;> simp_all

theorem get?_eq_none (h : numberIn? register registers.filled = none) :
    registers.get? register = none := by
  induction registers with
  | nil => rfl
  | cons entry earlier ih =>
    simp only [filled, List.map_cons, numberIn?] at h
    split at h
    · exact absurd h nofun
    · next hne =>
      rw [get?_cons, if_neg hne]
      exact ih h

theorem unplaced_append_of_le (h : registers.length ≤ k) (placed : List Nat) :
    unplaced (placed ++ [k]) registers = unplaced placed registers := by
  induction registers with
  | nil => rfl
  | cons entry earlier ih =>
    rw [List.length_cons] at h
    have hne : earlier.length ≠ k := by omega
    simp only [unplaced, List.mem_append, List.mem_singleton, hne, or_false, ih (by omega)]

/-- **A declaration that is placed is no longer to be placed**, and all others still are. -/
theorem perm_unplaced (h : numberIn? register registers.filled = some k) (hk : k ∉ placed) :
    ∃ d, registers.get? register = some d ∧
      (registers.unplaced placed).Perm (d :: registers.unplaced (placed ++ [k])) := by
  induction registers with
  | nil => exact absurd h nofun
  | cons entry earlier ih =>
    obtain ⟨name, e⟩ := entry
    simp only [filled, List.map_cons, numberIn?] at h
    rw [get?_cons]
    split at h
    · next heq =>
      -- the latest declaration has the number of those before it
      simp only [List.length_map, Option.some.injEq] at h
      subst h
      refine ⟨e, if_pos heq, ?_⟩
      simp only [unplaced, if_neg hk]
      rw [if_pos (by simp), unplaced_append_of_le (Nat.le_refl _)]
    · next hne =>
      obtain ⟨d, hget, hperm⟩ := ih h
      refine ⟨d, (if_neg hne).trans hget, ?_⟩
      have hlt := lt_length_of_numberIn? h
      rw [List.length_map] at hlt
      have hne' : earlier.length ≠ k := by omega
      simp only [unplaced, List.mem_append, List.mem_singleton, hne', or_false]
      split
      · exact hperm
      · exact (hperm.cons e).trans (.swap d e _)

/-- **Declarations that are taken from registers are no longer to be placed.** -/
theorem perm_takeAll {names : List String}
    (h : (placed ++ numbersIn registers.filled names).Nodup) :
    (registers.unplaced placed).Perm (registers.takeAll names
      ++ registers.unplaced (placed ++ numbersIn registers.filled names)) := by
  induction names generalizing placed with
  | nil => simp [takeAll, numbersIn]
  | cons name names ih =>
    cases hnumber : numberIn? name registers.filled with
    | none =>
      have hnumbers : numbersIn registers.filled (name :: names)
          = numbersIn registers.filled names := List.filterMap_cons_none hnumber
      have htake : registers.takeAll (name :: names) = registers.takeAll names :=
        List.filterMap_cons_none (get?_eq_none hnumber)
      rw [hnumbers] at h
      rw [hnumbers, htake]
      exact ih h
    | some k =>
      have hnumbers : numbersIn registers.filled (name :: names)
          = k :: numbersIn registers.filled names := List.filterMap_cons_some hnumber
      rw [hnumbers, List.append_cons] at h
      have hk : k ∉ placed := by
        intro hmem
        have hdisjoint := List.disjoint_of_nodup_append (List.Nodup.of_append_left h)
        exact hdisjoint hmem (List.mem_singleton_self k)
      obtain ⟨d, hget, hperm⟩ := perm_unplaced hnumber hk
      have htake : registers.takeAll (name :: names) = d :: registers.takeAll names :=
        List.filterMap_cons_some hget
      rw [hnumbers, htake, List.append_cons]
      exact hperm.trans ((ih h).cons d)

theorem mem_of_get? (h : registers.get? register = some d) : d ∈ registers.map Prod.snd := by
  obtain ⟨entry, hentry, rfl⟩ := Option.map_eq_some_iff.mp h
  exact List.mem_map_of_mem (List.mem_of_find?_eq_some hentry)

theorem mem_of_mem_takeAll {names : List String} (h : d ∈ registers.takeAll names) :
    d ∈ registers.map Prod.snd := by
  obtain ⟨name, _, hget⟩ := List.mem_filterMap.mp h
  exact mem_of_get? hget

end Registers

/-! ## Declarations that calls make -/

/-- Every handle is the id of the first member that may fill the slot, and absent if none may. -/
def Record.DesignatesFirst (r : Record Decl) : Prop :=
  ∀ slot, r.handle slot = (r.members.find? (·.fills slot)).map Decl.id

theorem Kind.designatesFirst_newRecord (members : List Decl) :
    ∀ r, newRecord members = record r → r.DesignatesFirst := by
  rintro r ⟨⟩ slot
  rw [Record.handle_mapHandles]
  rfl

namespace DeclSpec

variable {spec : DeclSpec}

theorem children_kind (h : spec.isRaw = false) (registers : Registers) :
    (spec.kind registers.takeAll).children = registers.takeAll spec.sources := by
  cases spec with
  | any name kind => exact absurd h nofun
  | _ => rfl

theorem designatesFirst_kind (h : spec.isRaw = false) (take : List String → List Decl)
    {r : Record Decl} (hr : spec.kind take = .record r) : r.DesignatesFirst := by
  cases spec with
  | record name members => exact Kind.designatesFirst_newRecord (take members) r hr
  | any name kind => exact absurd h nofun
  | _ => exact absurd hr nofun

end DeclSpec

namespace Builder

variable {b : Builder} {registers : Registers} {placed : List Nat} {d : Decl}

theorem currentFile_spec (b : Builder) :
    b.currentFile.1 < b.currentFile.2.files.length ∧
    b.files.length ≤ b.currentFile.2.files.length ∧
    b.currentFile.2.ids = b.ids ∧ b.currentFile.2.roots = b.roots := by
  unfold currentFile
  split
  · simp [addFile]
  · next hfiles =>
    have hpos : 0 < b.files.length := List.length_pos_of_ne_nil (by simpa using hfiles)
    exact ⟨Nat.sub_lt hpos Nat.one_pos, Nat.le_refl _, rfl, rfl⟩

/-- A declaration that is made has the next id, which is handed out by that, and a file. -/
theorem makeSpec_spec (b : Builder) (registers : Registers) (spec : DeclSpec) :
    let made := b.makeSpec registers spec
    made.1.id = b.ids.next ∧ made.1.kind = spec.kind registers.takeAll ∧
    made.1.file < made.2.files.length ∧ b.files.length ≤ made.2.files.length ∧
    made.2.ids.next = b.ids.next + 1 ∧ made.2.roots = b.roots := by
  obtain ⟨hfile, hfiles, hids, hroots⟩ := b.currentFile_spec
  rw [← hids]
  exact ⟨rfl, rfl, hfile, hfiles, rfl, hroots⟩

/-- A declaration as a builder makes it: its id was handed out, its file was added, and its handles,
if it is a record, designate the first members that may fill the slots. -/
structure Made (b : Builder) (d : Decl) : Prop where
  one_le : 1 ≤ d.id
  below : d.id < b.ids.next
  file : d.file < b.files.length
  handles : ∀ r, d.kind = .record r → r.DesignatesFirst

theorem Made.mono {b' : Builder} (h : b.Made d) (hids : b.ids.next ≤ b'.ids.next)
    (hfiles : b.files.length ≤ b'.files.length) : b'.Made d :=
  ⟨h.one_le, Nat.lt_of_lt_of_le h.below hids, Nat.lt_of_lt_of_le h.file hfiles, h.handles⟩

/-- **What holds while a library is built.**  Everything in the trees of the library and in the
registers was made by the builder under an id of its own, and is once in the trees or inside a
declaration that was not placed. -/
structure Coherent (b : Builder) (registers : Registers) (placed : List Nat) : Prop where
  one_le_next : 1 ≤ b.ids.next
  made : ∀ d ∈ b.roots ++ registers.map Prod.snd, ∀ e ∈ d.subtree, b.Made e
  distinct : (registers.map fun entry => entry.2.id).Nodup
  ids : Decl.idCensus (b.roots ++ registers.unplaced placed)
    = ↑(registers.map fun entry => entry.2.id)
  placed_lt : ∀ k ∈ placed, k < registers.length

namespace Coherent

theorem empty : empty.Coherent [] [] :=
  ⟨Nat.le_refl 1, nofun, List.nodup_nil, rfl, nofun⟩

theorem mono (h : b.Coherent registers placed) {b' : Builder} (hids : b.ids.next ≤ b'.ids.next)
    (hfiles : b.files.length ≤ b'.files.length) (hroots : b'.roots = b.roots) :
    b'.Coherent registers placed where
  one_le_next := Nat.le_trans h.one_le_next hids
  made := by
    rw [hroots]
    exact fun d hd e he => (h.made d hd e he).mono hids hfiles
  distinct := h.distinct
  ids := hroots ▸ h.ids
  placed_lt := h.placed_lt

theorem id_lt_next (h : b.Coherent registers placed) {d : Decl} (hd : d ∈ registers.map Prod.snd) :
    d.id < b.ids.next := by
  refine (h.made d (List.mem_append_right _ hd) d ?_).below
  rw [Decl.subtree_eq]
  exact List.mem_cons_self ..

theorem numbers_lt (h : b.Coherent registers placed) (names : List String) :
    ∀ k ∈ placed ++ numbersIn registers.filled names, k < registers.length := by
  intro k hk
  rcases List.mem_append.mp hk with hk | hk
  · exact h.placed_lt k hk
  · obtain ⟨name, _, hnumber⟩ := List.mem_filterMap.mp hk
    simpa [Registers.filled] using lt_length_of_numberIn? hnumber

theorem ids_takeAll (h : b.Coherent registers placed) {names : List String}
    (honce : (placed ++ numbersIn registers.filled names).Nodup) :
    Decl.idCensus b.roots + (Decl.idCensus (registers.takeAll names)
      + Decl.idCensus (registers.unplaced (placed ++ numbersIn registers.filled names)))
      = ↑(registers.map fun entry => entry.2.id) := by
  rw [← h.ids, Decl.idCensus_append, Decl.idCensus_perm (Registers.perm_takeAll honce),
    Decl.idCensus_append]

/-- **A declaration that is made** takes children from registers, and an id that was not in use. -/
theorem makeSpec (h : b.Coherent registers placed) {spec : DeclSpec} (hspec : spec.isRaw = false)
    (honce : (placed ++ numbersIn registers.filled spec.sources).Nodup) (register : String) :
    (b.makeSpec registers spec).2.Coherent ((register, (b.makeSpec registers spec).1) :: registers)
      (placed ++ numbersIn registers.filled spec.sources) := by
  obtain ⟨hid, hkind, hfile, hfiles, hnext, hroots⟩ := b.makeSpec_spec registers spec
  generalize b.makeSpec registers spec = made at *
  obtain ⟨d, b'⟩ := made
  dsimp only at *
  have hchildren : d.children = registers.takeAll spec.sources := by
    rw [Decl.children, hkind]
    exact DeclSpec.children_kind hspec registers
  have hgrown : b.ids.next ≤ b'.ids.next := hnext ▸ Nat.le_succ _
  have hmade : b'.Made d := by
    refine ⟨?_, ?_, hfile, fun r hr => ?_⟩
    · rw [hid]
      exact h.one_le_next
    · rw [hid, hnext]
      exact Nat.lt_succ_self _
    · exact DeclSpec.designatesFirst_kind hspec _ (hkind ▸ hr)
  have hold : ∀ x ∈ b.roots ++ registers.map Prod.snd, ∀ e ∈ x.subtree, b'.Made e :=
    fun x hx e he => (h.made x hx e he).mono hgrown hfiles
  have hnumber : registers.length ∉ placed ++ numbersIn registers.filled spec.sources :=
    fun hmem => Nat.lt_irrefl _ (h.numbers_lt _ _ hmem)
  constructor
  case one_le_next => exact Nat.le_trans h.one_le_next hgrown
  case made =>
    intro x hx e he
    rw [hroots, List.map_cons, List.mem_append, List.mem_cons] at hx
    rcases hx with hroot | rfl | hregister
    · exact hold x (List.mem_append_left _ hroot) e he
    · rw [Decl.subtree_eq, List.mem_cons, hchildren] at he
      rcases he with rfl | hinside
      · exact hmade
      · obtain ⟨c, hc, he⟩ := List.mem_flatMap.mp hinside
        exact hold c (List.mem_append_right _ (Registers.mem_of_mem_takeAll hc)) e he
    · exact hold x (List.mem_append_right _ hregister) e he
  case distinct =>
    rw [List.map_cons, List.nodup_cons]
    refine ⟨fun hmem => ?_, h.distinct⟩
    obtain ⟨entry, hentry, hsame⟩ := List.mem_map.mp hmem
    have hlt := h.id_lt_next (List.mem_map_of_mem hentry)
    rw [hsame, hid] at hlt
    exact Nat.lt_irrefl _ hlt
  case ids =>
    rw [hroots, Registers.unplaced, if_neg hnumber, Decl.idCensus_append, Decl.idCensus_cons,
      Decl.idCensus_singleton, hchildren, List.map_cons, ← Multiset.cons_coe, ← h.ids_takeAll honce,
      ← Multiset.singleton_add, add_assoc, add_left_comm]
  case placed_lt =>
    intro k hk
    exact Nat.lt_succ_of_lt (h.numbers_lt _ k hk)

/-- **A root that is added** is a tree of the library from then on. -/
theorem push (h : b.Coherent registers placed) {register : String}
    (hget : registers.get? register = some d)
    (honce : (placed ++ numbersIn registers.filled [register]).Nodup) :
    (b.push d).2.Coherent registers (placed ++ numbersIn registers.filled [register]) where
  one_le_next := h.one_le_next
  made := by
    intro x hx e he
    refine (h.made x ?_ e he).mono (Nat.le_refl _) (Nat.le_refl _)
    rcases List.mem_append.mp hx with hroot | hregister
    · rcases List.mem_append.mp hroot with hroot | hnew
      · exact List.mem_append_left _ hroot
      · rw [List.mem_singleton] at hnew
        subst hnew
        exact List.mem_append_right _ (Registers.mem_of_get? hget)
    · exact List.mem_append_right _ hregister
  distinct := h.distinct
  ids := by
    have htake : registers.takeAll [register] = [d] := List.filterMap_cons_some hget
    have hids := h.ids_takeAll honce
    rw [htake, ← add_assoc, ← Decl.idCensus_append, ← Decl.idCensus_append] at hids
    exact hids
  placed_lt := h.numbers_lt [register]

/-- **One call keeps the library and the registers coherent**, if what it places was not placed. -/
theorem run (h : b.Coherent registers placed) {call : BuilderCall} (hcall : call.isHelper = true)
    (honce : (placed ++ numbersIn registers.filled call.sources).Nodup) :
    let after := (call.run b registers).2
    after.1.Coherent after.2 (placed ++ numbersIn registers.filled call.sources) ∧
      Registers.filled after.2 = call.targets ++ registers.filled := by
  cases call with
  | addFile path =>
    refine ⟨?_, rfl⟩
    rw [BuilderCall.sources, numbersIn, List.filterMap_nil, List.append_nil]
    exact h.mono (Nat.le_refl _) (by simp [BuilderCall.run, addFile]) rfl
  | freshId =>
    refine ⟨?_, rfl⟩
    rw [BuilderCall.sources, numbersIn, List.filterMap_nil, List.append_nil]
    exact h.mono (Nat.le_succ _) (Nat.le_refl _) rfl
  | make register spec =>
    have hspec : spec.isRaw = false := by simpa [BuilderCall.isHelper] using hcall
    exact ⟨h.makeSpec hspec honce register, rfl⟩
  | change register source edits => exact absurd hcall nofun
  | push register =>
    cases hnumber : numberIn? register registers.filled with
    | none =>
      -- nothing is placed
      have hget := Registers.get?_eq_none hnumber
      have hnumbers : numbersIn registers.filled [register] = [] :=
        List.filterMap_cons_none hnumber
      simp only [BuilderCall.run, hget, BuilderCall.sources, hnumbers, List.append_nil]
      exact ⟨h, rfl⟩
    | some k =>
      obtain ⟨d, hget, -⟩ := Registers.perm_unplaced hnumber (List.not_mem_nil : k ∉ [])
      simp only [BuilderCall.run, hget]
      exact ⟨h.push hget honce, rfl⟩

/-- **Any sequence of calls does**, if no declaration is placed twice. -/
theorem runAll (h : b.Coherent registers placed) {calls : List BuilderCall}
    (hcalls : ∀ call ∈ calls, call.isHelper = true)
    (honce : (placed ++ placements registers.filled calls).Nodup) :
    let after := BuilderCall.runAll b registers calls
    after.1.Coherent after.2 (placed ++ placements registers.filled calls) := by
  induction calls generalizing b registers placed with
  | nil =>
    rw [placements, List.append_nil]
    exact h
  | cons call calls ih =>
    obtain ⟨hcall, hcalls⟩ := List.forall_mem_cons.mp hcalls
    rw [placements, ← List.append_assoc] at honce ⊢
    obtain ⟨hafter, hfilled⟩ := h.run hcall (List.Nodup.of_append_left honce)
    rw [← hfilled] at honce ⊢
    exact ih hafter hcalls honce

end Coherent

end Builder

/-! ## What was built -/

namespace BuilderCall

/-- **What the helpers build is sound.**  Whatever calls of the helpers are made, in whatever order,
if they place no declaration twice then the ids in the library that was built are distinct, are not
zero and were handed out, every declaration has a file, and every handle of a record is the id of
the first member that may fill the slot, so that it is absent just if no member may. -/
theorem library_sound {calls : List BuilderCall} (hcalls : ∀ call ∈ calls, call.isHelper = true)
    (honce : (placements [] calls).Nodup) :
    let L := (runAll .empty [] calls).1.library
    L.TreeIdsSound ∧ (∀ id ∈ L.ids, 1 ≤ id) ∧ 1 ≤ L.nextId ∧
    (∀ d ∈ L.decls, d.file < L.files.length) ∧
    ∀ d ∈ L.decls, ∀ r, d.kind = .record r → ∀ slot,
      r.handle slot = (r.members.find? (·.fills slot)).map Decl.id ∧
      (r.handle slot = none ↔ ∀ m ∈ r.members, m.fills slot = false) ∧
      ∀ id, r.handle slot = some id → ∃ m ∈ r.members, m.id = id ∧ m.fills slot = true := by
  have h := Builder.Coherent.empty.runAll hcalls honce
  generalize runAll .empty [] calls = after at h ⊢
  obtain ⟨b, registers⟩ := after
  generalize [] ++ placements _ calls = placed at h
  dsimp only at h
  intro L
  have hmade : ∀ d ∈ L.decls, b.Made d := by
    intro d hd
    obtain ⟨root, hroot, hd⟩ := List.mem_flatMap.mp hd
    exact h.made root (List.mem_append_left _ hroot) d hd
  have hids : ∀ id ∈ L.ids, 1 ≤ id ∧ id < L.nextId := by
    intro id hid
    obtain ⟨d, hd, rfl⟩ := List.mem_map.mp hid
    exact ⟨(hmade d hd).one_le, (hmade d hd).below⟩
  have hdistinct : L.ids.Nodup := by
    have hall : (Decl.idCensus (b.roots ++ registers.unplaced placed)).Nodup := by
      rw [h.ids]
      exact h.distinct
    rw [Decl.idCensus_append] at hall
    exact (Multiset.nodup_add.mp hall).1
  refine ⟨⟨hdistinct, fun id hid => (hids id hid).2⟩, fun id hid => (hids id hid).1, h.one_le_next,
    fun d hd => (hmade d hd).file, ?_⟩
  intro d hd r hr slot
  have hhandle := (hmade d hd).handles r hr slot
  refine ⟨hhandle, ?_, ?_⟩
  · rw [hhandle]
    simp
  · intro id hid
    rw [hhandle] at hid
    obtain ⟨m, hm, rfl⟩ := Option.map_eq_some_iff.mp hid
    have hfills : m.fills slot = true := by simpa using List.find?_some hm
    exact ⟨m, List.mem_of_find?_eq_some hm, rfl, hfills⟩

/-- A parameter is made before there is a file, its register is filled again by the method that
takes it, and a field is made that is placed nowhere. -/
def Sample.panel : List BuilderCall :=
  [.make "x" (.parameter "width" (.scalar .i32)), .addFile "panel.h", .freshId,
    .make "x" (.method "Resize" ["x"]), .make "pointer" .vtableField, .make "spare" .vtableField,
    .make "table" (.vtable []), .make "panel" (.record "Panel" ["x", "table", "pointer"]),
    .push "panel"]

theorem library_sound_panel :
    (∀ call ∈ Sample.panel, call.isHelper = true) ∧ (placements [] Sample.panel).Nodup ∧
    let L := (runAll .empty [] Sample.panel).1.library
    L.files = ["<unknown>", "panel.h"] ∧ L.ids = [7, 3, 1, 6, 4] ∧ L.nextId = 8 ∧
    L.TreeIdsSound ∧ (∀ d ∈ L.decls, d.file < L.files.length) ∧
    ∃ d ∈ L.decls, ∃ r, d.kind = .record r ∧ r.handle .vtableField = some 4 ∧
      ∃ m ∈ r.members, m.id = 4 ∧ m.fills .vtableField = true := by
  have hcalls : ∀ call ∈ Sample.panel, call.isHelper = true := by decide
  have honce : (placements [] Sample.panel).Nodup := by decide
  obtain ⟨hids, -, -, hfiles, hhandles⟩ := library_sound hcalls honce
  refine ⟨hcalls, honce, ?_⟩
  intro L
  obtain ⟨panel, r, hroots, hr, hpointer⟩ : ∃ d r, L.roots = [d] ∧ d.kind = .record r ∧
      r.handle .vtableField = some 4 := ⟨_, _, rfl, rfl, rfl⟩
  have hpanel : panel ∈ L.decls := by
    rw [Library.decls, hroots, List.flatMap_cons, Decl.subtree_eq]
    exact List.mem_cons_self ..
  exact ⟨rfl, by decide +kernel, rfl, hids, hfiles, panel, hpanel, r, hr, hpointer,
    (hhandles panel hpanel r hr .vtableField).2.2 4 hpointer⟩

end BuilderCall

end NativeApi

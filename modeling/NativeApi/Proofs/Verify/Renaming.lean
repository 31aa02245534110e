import NativeApi.Proofs.Verify.Amendments
import NativeApi.Proofs.Verify.Outcomes

/-!
# Renamed fields

A field with the name of its parent gets a new name, and each field finds its name alone: it knows
the names of its siblings before verification, but not what the others find.  The names that are
found are distinct all the same, since a field skips as many free names as it has earlier siblings
of its name.

* `NameSearch`: the search as a loop that appends one underscore at a time.  It ends
  (`NameSearch.exists_unique`), and what it finds is the free name with a given number of free
  names before it (`NameSearch.exists_countP`).
* `Decl.FindsName`: what a child finds among its siblings.  Two children that clash with their
  parent never find the same name (`Decl.FindsName.ne`).
* `Decl.CalledBelow`: what a child is called in the end, as verification names it
  (`Settles.calledBelow`).
* `verify_renames_apart`: **renamed fields have fresh names and never meet**.
-/

namespace NativeApi

/-! ## The search for a free name -/

/-- The search for a free name: as long as free names remain to be met, an underscore is appended,
and a name that is not taken is one of them.
`NameSearch taken name remaining new`: from `name` on, the last of the next `remaining` free names
is `new`. -/
inductive NameSearch (taken : List String) : String → Nat → String → Prop
  | done (name : String) : NameSearch taken name 0 name
  | occupied {name new : String} {remaining : Nat} : name.push '_' ∈ taken →
      NameSearch taken (name.push '_') (remaining + 1) new →
      NameSearch taken name (remaining + 1) new
  | free {name new : String} {remaining : Nat} : name.push '_' ∉ taken →
      NameSearch taken (name.push '_') remaining new →
      NameSearch taken name (remaining + 1) new

theorem underscored_zero (base : String) : underscored base 0 = base := by
  rw [underscored, List.replicate_zero, String.ofList_nil, String.append_empty]

theorem underscored_succ (base : String) (k : Nat) :
    underscored base (k + 1) = (underscored base k).push '_' := by
  rw [String.ext_iff, String.toList_push, underscored, underscored, String.toList_append,
    String.toList_append, String.toList_ofList, String.toList_ofList, List.replicate_succ',
    List.append_assoc]

/-- An entry of a filtered range is preceded by as many entries as pass the test below it. -/
theorem getElem?_filter_range {p : Nat → Bool} {n i k : Nat}
    (h : ((List.range n).filter p)[i]? = some k) :
    p k = true ∧ (List.range k).countP p = i := by
  induction n with
  | zero => exact absurd h (by simp)
  | succ n ih =>
    rw [List.range_succ, List.filter_append] at h
    by_cases hi : i < ((List.range n).filter p).length
    · rw [List.getElem?_append_left hi] at h
      exact ih h
    · rw [List.getElem?_append_right (Nat.le_of_not_lt hi)] at h
      cases hn : p n with
      | false => simp [hn] at h
      | true =>
        rw [List.filter_cons_of_pos hn, List.filter_nil, List.getElem?_singleton] at h
        split at h
        · next hlast =>
          obtain rfl := Option.some.inj h
          refine ⟨hn, ?_⟩
          rw [List.countP_eq_length_filter]
          omega
        · exact absurd h nofun

/-- What is in the list of free names, with the number of free names before it. -/
theorem exists_countP_of_getElem?_freeNames {base new : String} {taken : List String}
    {count i : Nat} (h : (freeNames base taken count)[i]? = some new) :
    ∃ k, new = underscored base (k + 1) ∧ new ∉ taken ∧
      (List.range k).countP (fun j => underscored base (j + 1) ∉ taken) = i := by
  rw [freeNames, List.filter_map, List.getElem?_map] at h
  obtain ⟨k, hk, rfl⟩ := Option.map_eq_some_iff.mp h
  obtain ⟨hfree, hcount⟩ := getElem?_filter_range hk
  exact ⟨k, rfl, by simpa using hfree, hcount⟩

namespace NameSearch

variable {taken : List String} {base : String}

theorem unique {name new new' : String} {remaining : Nat}
    (h : NameSearch taken name remaining new) (h' : NameSearch taken name remaining new') :
    new' = new := by
  induction h with
  | done name =>
    cases h' with
    | done => rfl
  | occupied htaken _ ih =>
    cases h' with
    | occupied _ h' => exact ih h'
    | free hfree _ => exact absurd htaken hfree
  | free hfree _ ih =>
    cases h' with
    | occupied htaken _ => exact absurd htaken hfree
    | free _ h' => exact ih h'

theorem of_countP {m n remaining : Nat} (hfree : underscored base (m + n + 1) ∉ taken)
    (hcount : (List.range' m n).countP (fun k => underscored base (k + 1) ∉ taken) = remaining) :
    NameSearch taken (underscored base m) (remaining + 1) (underscored base (m + n + 1)) := by
  induction n generalizing m remaining with
  | zero =>
    obtain rfl : 0 = remaining := hcount
    refine .free ?_ ?_
    · rwa [← underscored_succ]
    · rw [← underscored_succ]
      exact .done _
  | succ n ih =>
    have hshift : m + (n + 1) + 1 = m + 1 + n + 1 := by omega
    rw [List.range'_succ, List.countP_cons] at hcount
    rw [hshift] at hfree ⊢
    by_cases htaken : underscored base (m + 1) ∈ taken
    · rw [if_neg (by simpa using htaken)] at hcount
      refine .occupied (by rwa [← underscored_succ]) ?_
      rw [← underscored_succ]
      exact ih hfree hcount
    · rw [if_pos (by simpa using htaken)] at hcount
      subst hcount
      refine .free (by rwa [← underscored_succ]) ?_
      rw [← underscored_succ]
      exact ih hfree rfl

theorem of_getElem?_freeNames {new : String} {count i : Nat}
    (h : (freeNames base taken count)[i]? = some new) : NameSearch taken base (i + 1) new := by
  obtain ⟨k, rfl, hfree, hcount⟩ := exists_countP_of_getElem?_freeNames h
  rw [List.range_eq_range'] at hcount
  have hsearch := of_countP (m := 0) (n := k) (by rwa [Nat.zero_add]) hcount
  rwa [underscored_zero, Nat.zero_add] at hsearch

/-- A name found by the search is free, and it is known how many free names come before it. -/
theorem exists_countP {new : String} {i : Nat} (h : NameSearch taken base (i + 1) new) :
    ∃ k, new = underscored base (k + 1) ∧ new ∉ taken ∧
      (List.range k).countP (fun j => underscored base (j + 1) ∉ taken) = i := by
  have hlisted := List.getElem?_eq_getElem (le_length_freeNames base taken (i + 1))
  rw [unique (of_getElem?_freeNames hlisted) h]
  exact exists_countP_of_getElem?_freeNames hlisted

/-- **The search ends**, whatever names are taken. -/
theorem exists_unique (taken : List String) (base : String) (i : Nat) :
    ∃ new, ∀ found, NameSearch taken base (i + 1) found ↔ found = new := by
  have hsearch := of_getElem?_freeNames
    (List.getElem?_eq_getElem (le_length_freeNames base taken (i + 1)))
  refine ⟨_, fun found => ⟨hsearch.unique, ?_⟩⟩
  rintro rfl
  exact hsearch

end NameSearch

/-! ## Siblings -/

namespace Decl

/-- The number of siblings before a child that have its name. -/
def earlierNamesakes (p d : Decl) : Nat :=
  (p.children.takeWhile (·.id ≠ d.id)).countP (·.name = d.name)

/-- The name that a child finds among its siblings. -/
def FindsName (p d : Decl) (new : String) : Prop :=
  NameSearch (p.children.map name) d.name (p.earlierNamesakes d + 1) new

/-- A child is a field with the name of its parent. -/
structure Clashes (p d : Decl) : Prop where
  isField : d.kind.form.IsField
  named : d.name ≠ ""
  same : d.name = p.name

/-- Where ids are distinct, what is before a child is what is before the first one with its id. -/
theorem takeWhile_id_ne {ds : List Decl} (hids : (ds.map Decl.id).Nodup) {i : Nat} {d : Decl}
    (hd : ds[i]? = some d) : ds.takeWhile (·.id ≠ d.id) = ds.take i := by
  induction ds generalizing i with
  | nil => exact absurd hd nofun
  | cons e ds ih =>
    rw [List.map_cons, List.nodup_cons] at hids
    cases i with
    | zero =>
      obtain rfl : e = d := Option.some.inj hd
      rw [List.takeWhile_cons_of_neg (by simp), List.take_zero]
    | succ i =>
      rw [List.getElem?_cons_succ] at hd
      have hne : e.id ≠ d.id := fun heq =>
        hids.1 (heq ▸ List.mem_map_of_mem (List.mem_of_getElem? hd))
      rw [List.takeWhile_cons_of_pos (by simpa using hne), ih hids.2 hd, List.take_succ_cons]

theorem countP_take_lt {α : Type} {q : α → Bool} {l : List α} {i j : Nat} {a : α}
    (ha : l[i]? = some a) (hq : q a = true) (hij : i < j) :
    (l.take i).countP q < (l.take j).countP q := by
  have hstep : (l.take (i + 1)).countP q = (l.take i).countP q + 1 := by
    rw [List.take_add_one, ha, List.countP_append]
    simp [hq]
  have hmono : (l.take (i + 1)).countP q ≤ (l.take j).countP q :=
    (List.take_sublist_take_left hij).countP_le
  omega

namespace FindsName

variable {p d e : Decl} {new new' : String}

theorem exists_unique (p d : Decl) : ∃ new, ∀ found, p.FindsName d found ↔ found = new :=
  NameSearch.exists_unique _ _ _

/-- A later child that clashes has more earlier namesakes. -/
theorem earlierNamesakes_lt (hids : (p.children.map Decl.id).Nodup) {i j : Nat}
    (hd : p.children[i]? = some d) (he : p.children[j]? = some e) (hname : d.name = e.name)
    (hij : i < j) : p.earlierNamesakes d < p.earlierNamesakes e := by
  rw [earlierNamesakes, earlierNamesakes, takeWhile_id_ne hids hd, takeWhile_id_ne hids he, hname]
  exact countP_take_lt hd (by simpa using hname) hij

/-- **Two children that clash with their parent never find the same name.** -/
theorem ne (hids : (p.children.map Decl.id).Nodup) {i j : Nat} (hij : i ≠ j)
    (hd : p.children[i]? = some d) (he : p.children[j]? = some e) (hclash : p.Clashes d)
    (hclash' : p.Clashes e) (h : p.FindsName d new) (h' : p.FindsName e new') : new ≠ new' := by
  obtain ⟨k, rfl, _, hcount⟩ := h.exists_countP
  obtain ⟨k', rfl, _, hcount'⟩ := h'.exists_countP
  have hname : d.name = e.name := hclash.same.trans hclash'.same.symm
  rw [← hname] at hcount' ⊢
  intro heq
  obtain rfl : k = k' := Nat.succ.inj (underscored_injective _ heq)
  -- the same name would have the same number of free names before it
  have hearlier := hcount.symm.trans hcount'
  rcases Nat.lt_or_gt_of_ne hij with hlt | hlt
  · exact Nat.ne_of_lt (earlierNamesakes_lt hids hd he hname hlt) hearlier
  · exact Nat.ne_of_gt (earlierNamesakes_lt hids he hd hname.symm hlt) hearlier

end FindsName

/-! ## Names after verification -/

/-- What a child is called after verification: a field with the name of its parent gets the name
that it finds, everything else keeps its name. -/
structure CalledBelow (p d : Decl) (new : String) : Prop where
  found : p.Clashes d → p.FindsName d new
  kept : ¬ p.Clashes d → new = d.name

namespace CalledBelow

variable {p d e : Decl} {new new' : String}

theorem clashes (h : p.CalledBelow d new) (hnew : new ≠ d.name) : p.Clashes d :=
  not_not.mp fun hnot => hnew (h.kept hnot)

/-- A new name is that of the parent with underscores, and no sibling had it. -/
theorem exists_underscored (h : p.CalledBelow d new) (hnew : new ≠ d.name) :
    ∃ k, new = underscored p.name (k + 1) ∧ new ∉ p.children.map name := by
  have hclash := h.clashes hnew
  obtain ⟨k, hk, hfree, _⟩ := (h.found hclash).exists_countP
  exact ⟨k, hclash.same ▸ hk, hfree⟩

/-- **A renamed child never meets a sibling.** -/
theorem ne (hids : (p.children.map Decl.id).Nodup) {i j : Nat} (hij : i ≠ j)
    (hd : p.children[i]? = some d) (he : p.children[j]? = some e) (h : p.CalledBelow d new)
    (h' : p.CalledBelow e new') (hnew : new ≠ d.name) : new ≠ new' := by
  by_cases hclash : p.Clashes e
  · exact FindsName.ne hids hij hd he (h.clashes hnew) hclash (h.found (h.clashes hnew))
      (h'.found hclash)
  · obtain ⟨_, _, hfree⟩ := h.exists_underscored hnew
    rw [h'.kept hclash]
    rintro rfl
    exact hfree (List.mem_map_of_mem (List.mem_of_getElem? he))

end CalledBelow

end Decl

theorem Context.calledBelow_repairedName (L : Library) (p d : Decl) (above : List Decl) :
    p.CalledBelow d ((Context.mk L (p :: above)).repairedName d) := by
  have hparent : (Context.mk L (p :: above)).parent? = some p := rfl
  refine ⟨fun hclash => ?_, fun hnot => ?_⟩
  · have hname : (Context.mk L (p :: above)).parent?.map Decl.name = some d.name := by
      rw [hparent, Option.map_some, hclash.same]
    obtain ⟨new, hnew⟩ := Option.isSome_iff_exists.mp
      (isSome_disambiguatedName?_iff.mpr ⟨hclash.named, hname⟩)
    rw [repairedName, newName?_of_isField hclash.isField, hnew]
    rw [disambiguatedName?, hparent] at hnew
    dsimp only at hnew
    rw [if_neg (not_or.mpr ⟨hclash.named, not_not.mpr hclash.same⟩)] at hnew
    exact NameSearch.of_getElem?_freeNames hnew
  · by_cases hfield : d.kind.form.IsField
    · have hnone : (Context.mk L (p :: above)).disambiguatedName? d = none := by
        rw [← Option.not_isSome_iff_eq_none, isSome_disambiguatedName?_iff, hparent]
        rintro ⟨hne, hname⟩
        exact hnot ⟨hfield, hne, (Option.some.inj hname).symm⟩
      rw [repairedName, newName?_of_isField hfield, hnone]
      rfl
    · rw [repairedName, newName?_of_not_isField hfield]
      rfl

namespace Settles

variable {default : CallingConvention} {L N : Library} {above : List Decl} {p d d' : Decl}

theorem calledBelow (h : Settles default L N (p :: above) d d') : p.CalledBelow d d'.name := by
  obtain ⟨parts, _, rfl⟩ := h.exists_parts
  have hname := Context.calledBelow_repairedName L p d above
  rwa [← ((Context.mk L (p :: above)).repairedLabels_withSettled d _).1] at hname

theorem name_eq (h : Settles default L N above d d') (hchildren : d.children ≠ []) :
    d'.name = d.name := by
  obtain ⟨parts, _, rfl⟩ := h.exists_parts
  exact Context.name_settle hchildren

end Settles

/-- **Renamed fields have fresh names and never meet.**  For each child of a declaration the search
for a name ends, and it is what the child is called if it is a field with the name of its parent;
every other child keeps its name.  A child with another name than before is called as the parent,
with underscores behind, and neither the parent nor any sibling had this name.  Two children of
which one was renamed have different names. -/
theorem verify_renames_apart (default : CallingConvention) (L : Library) {path : List Nat}
    {p : Decl} (hp : L.declAt? path = some p) (hids : (p.children.map Decl.id).Nodup) :
    (∀ i d, p.children[i]? = some d → ∃ p' d' new,
      L.outcomeAt? (verify default L) path = some p' ∧ p'.name = p.name ∧
      L.outcomeAt? (verify default L) (path ++ [i]) = some d' ∧ d'.id = d.id ∧
      (∀ found, p.FindsName d found ↔ found = new) ∧
      (p.Clashes d → d'.name = new) ∧ (¬ p.Clashes d → d'.name = d.name) ∧
      (d'.name ≠ d.name → (∃ k, d'.name = underscored p.name (k + 1)) ∧ d'.name ≠ p.name ∧
        ∀ e ∈ p.children, d'.name ≠ e.name)) ∧
    ∀ i j d e d' e', i ≠ j → p.children[i]? = some d → p.children[j]? = some e →
      L.outcomeAt? (verify default L) (path ++ [i]) = some d' →
      L.outcomeAt? (verify default L) (path ++ [j]) = some e' →
      d'.name ≠ d.name ∨ e'.name ≠ e.name → d'.name ≠ e'.name := by
  obtain ⟨⟨above, q⟩, hv, rfl⟩ := Library.exists_visit_of_declAt? hp
  have hchild : ∀ i d, q.children[i]? = some d →
      ∃ d', L.outcomeAt? (verify default L) (path ++ [i]) = some d' ∧
        Settles default L (verify default L) (q :: above) d d' := by
    intro i d hd
    exact exists_outcome default L (Library.visitBelow?_child hv hd)
  constructor
  · intro i d hd
    obtain ⟨p', hp', hsettles⟩ := exists_outcome default L hv
    obtain ⟨d', hd', hsettles'⟩ := hchild i d hd
    obtain ⟨new, hnew⟩ := Decl.FindsName.exists_unique q d
    have hcalled := hsettles'.calledBelow
    have hchildren : q.children ≠ [] := List.ne_nil_of_mem (List.mem_of_getElem? hd)
    refine ⟨p', d', new, hp', hsettles.name_eq hchildren, hd', hsettles'.continues.id, hnew,
      fun hclash => (hnew _).mp (hcalled.found hclash), hcalled.kept, fun hrenamed => ?_⟩
    obtain ⟨k, hk, hfree⟩ := hcalled.exists_underscored hrenamed
    refine ⟨⟨k, hk⟩, ?_, ?_⟩
    · rw [hk]
      exact underscored_succ_ne q.name k
    · intro e he heq
      exact hfree (heq ▸ List.mem_map_of_mem he)
  · intro i j d e d' e' hij hd he hd' he' hrenamed
    obtain ⟨d'', hd'', hsettles⟩ := hchild i d hd
    obtain ⟨e'', he'', hsettles'⟩ := hchild j e he
    obtain rfl : d' = d'' := Option.some.inj (hd'.symm.trans hd'')
    obtain rfl : e' = e'' := Option.some.inj (he'.symm.trans he'')
    rcases hrenamed with hrenamed | hrenamed
    · exact Decl.CalledBelow.ne hids hij hd he hsettles.calledBelow hsettles'.calledBelow hrenamed
    · exact (Decl.CalledBelow.ne hids hij.symm he hd hsettles'.calledBelow hsettles.calledBelow
        hrenamed).symm

/-- A record with a field, a method and a static field of its name, of which the second free name is
taken. -/
def Sample.namesakes : Library :=
  .ofRoots ["include/foo.h"] [
    .ofKind 5 "Foo" 0 (.record (.ofMembers [
      .ofKind 1 "Foo" 0 (.field 0 (.normal (.scalar .i32))),
      .ofKind 2 "Foo" 0 (.newMethod "Foo" []),
      .ofKind 3 "Foo__" 0 (.field 4 (.normal (.scalar .i32))),
      .ofKind 4 "Foo" 0 (.staticField "Foo" (.scalar .i32))]))] 6

/-- The method keeps the name, but counts for the static field, which takes the third free name. -/
theorem verify_renames_namesakes_apart : ∃ p d, Sample.namesakes.declAt? [0] = some p ∧
    (p.children.map Decl.id).Nodup ∧ p.children[3]? = some d ∧ p.FindsName d "Foo____" ∧
    ((List.range 4).map fun i =>
      (Sample.namesakes.outcomeAt? (verify .c Sample.namesakes) [0, i]).map Decl.name)
        = [some "Foo_", some "Foo", some "Foo__", some "Foo____"] := by
  have hnames : ((List.range 4).map fun i =>
      (Sample.namesakes.outcomeAt? (verify .c Sample.namesakes) [0, i]).map Decl.name)
        = [some "Foo_", some "Foo", some "Foo__", some "Foo____"] := by decide +kernel
  have hrecord : Sample.namesakes.declAt? [0] = some Sample.namesakes.roots[0] := rfl
  obtain ⟨hchildren, _⟩ := verify_renames_apart .c Sample.namesakes hrecord (by decide +kernel)
  obtain ⟨_, d', new, _, _, hd', _, hnew, hclash, _⟩ := hchildren 3 _ rfl
  have hname : d'.name = "Foo____" := by
    have hlast : (Sample.namesakes.outcomeAt? (verify .c Sample.namesakes) ([0] ++ [3])).map
        Decl.name = some "Foo____" := Option.some.inj (congrArg (·[3]?) hnames)
    rw [hd'] at hlast
    exact Option.some.inj hlast
  refine ⟨_, _, rfl, by decide +kernel, rfl, (hnew _).mpr ?_, hnames⟩
  rw [← hname]
  exact hclash ⟨trivial, by decide, rfl⟩

end NativeApi

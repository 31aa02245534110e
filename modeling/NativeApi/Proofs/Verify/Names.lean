import Mathlib.Data.List.Nodup
import Mathlib.Data.List.Perm.Subperm
import NativeApi.Verify.FieldNames

/-!
# New names of fields

Enough free names are tried for every field that has to be renamed
(`Context.isSome_disambiguatedName?_iff`), and the name that it gets is neither that of the
declaration around it nor that of a sibling (`Context.disambiguatedName?_spec`).
-/

namespace NativeApi

/-! ## Underscores -/

theorem length_underscored (base : String) (count : Nat) :
    (underscored base count).length = base.length + count := by
  simp [underscored]

theorem underscored_injective (base : String) : Function.Injective (underscored base) := by
  intro a b h
  have hlength := congrArg String.length h
  rw [length_underscored, length_underscored] at hlength
  exact Nat.add_left_cancel hlength

theorem underscored_succ_ne (base : String) (k : Nat) : underscored base (k + 1) ≠ base := by
  intro h
  have hlength := congrArg String.length h
  rw [length_underscored] at hlength
  omega

/-! ## Free names -/

theorem mem_freeNames {base : String} {taken : List String} {count : Nat} {name : String}
    (h : name ∈ freeNames base taken count) :
    name ∉ taken ∧ ∃ k, name = underscored base (k + 1) := by
  obtain ⟨hmem, hfree⟩ := List.mem_filter.mp h
  obtain ⟨k, _, rfl⟩ := List.mem_map.mp hmem
  exact ⟨by simpa using hfree, k, rfl⟩

theorem le_length_freeNames (base : String) (taken : List String) (count : Nat) :
    count ≤ (freeNames base taken count).length := by
  let tried := (List.range (taken.length + count)).map fun k => underscored base (k + 1)
  have hnodup : tried.Nodup :=
    List.Nodup.map (fun a b h => Nat.succ.inj (underscored_injective base h)) List.nodup_range
  have htaken : (tried.filter (· ∈ taken)).length ≤ taken.length :=
    (List.subperm_of_subset (hnodup.filter _) fun name h => by
      simpa using (List.mem_filter.mp h).2).length_le
  have hsplit : tried.length
      = (tried.filter (· ∈ taken)).length + (tried.filter (· ∉ taken)).length := by
    have := tried.length_eq_length_filter_add (· ∈ taken)
    simpa using this
  have htried : tried.length = taken.length + count := by simp [tried]
  have hfree : freeNames base taken count = tried.filter (· ∉ taken) := rfl
  rw [hfree]
  omega

/-! ## New names -/

namespace Context

variable {ctx : Context} {d : Decl}

/-- A field is renamed if and only if it has the name of the declaration around it. -/
theorem isSome_disambiguatedName?_iff :
    (ctx.disambiguatedName? d).isSome = true ↔
      d.name ≠ "" ∧ ctx.parent?.map Decl.name = some d.name := by
  rw [disambiguatedName?]
  cases ctx.parent? with
  | none => simp
  | some parent =>
    dsimp only
    split
    · next h =>
      refine iff_of_false (by simp) ?_
      rintro ⟨hne, hname⟩
      rcases h with hempty | hdiffers
      · exact hne hempty
      · exact hdiffers (Option.some.inj hname).symm
    · next h =>
      obtain ⟨hne, hname⟩ := not_or.mp h
      refine iff_of_true ?_ ⟨hne, congrArg some (not_not.mp hname).symm⟩
      have := le_length_freeNames d.name (parent.children.map Decl.name)
        ((parent.children.takeWhile (·.id ≠ d.id)).countP (·.name = d.name) + 1)
      rw [List.getElem?_eq_getElem this]
      rfl

theorem disambiguatedName?_spec {new : String} (h : ctx.disambiguatedName? d = some new) :
    ∃ parent k, ctx.parent? = some parent ∧ d.name = parent.name ∧
      new = underscored parent.name (k + 1) ∧ new ∉ parent.children.map Decl.name := by
  rw [disambiguatedName?] at h
  cases hparent : ctx.parent? with
  | none =>
    rw [hparent] at h
    exact absurd h (by simp)
  | some parent =>
    rw [hparent] at h
    dsimp only at h
    split at h
    · exact absurd h (by simp)
    · next hname =>
      have hsame : d.name = parent.name := not_not.mp (not_or.mp hname).2
      obtain ⟨hfree, k, hk⟩ := mem_freeNames (List.mem_of_getElem? h)
      exact ⟨parent, k, rfl, hsame, hsame ▸ hk, hfree⟩

end Context

end NativeApi

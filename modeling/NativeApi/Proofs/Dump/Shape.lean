import NativeApi.Library.Builder
import NativeApi.Proofs.Decl.Throughout
import NativeApi.Proofs.Dump.OneLine

/-!
# What the dump tells

The lines of a dump show where they belong.  The margin of a line tells how deep its declaration
is, and the first mark after the margin tells a header, which begins with a letter, from a
diagnostic.  So the lines of a declaration end where the margin does not go on, and two forests with
the same lines are declaration by declaration the same, as far as headers and diagnostics go.

* `Decl.lines_append_inj`: the lines of a declaration are told from what follows them.
* `Library.dump_eq_iff`: **two dumps agree iff the forests have the same shape, with the same
  headers and diagnostics at every position**.
-/

namespace NativeApi

/-! ## Margins and marks -/

/-- The number of blanks that a line begins with. -/
def margin (line : String) : Nat := (line.toList.takeWhile (· = ' ')).length

/-- The first character of a line that is not blank. -/
def mark? (line : String) : Option Char := (line.toList.dropWhile (· = ' ')).head?

namespace Decl

theorem margin_indent {s : String} {c : Char} (hs : s.toList.head? = some c) (hc : c ≠ ' ')
    (depth : Nat) : margin (indent depth ++ s) = 2 * depth := by
  obtain ⟨rest, hrest⟩ := List.head?_eq_some_iff.mp hs
  rw [margin, String.toList_append, hrest, indent, String.toList_ofList,
    List.takeWhile_append_of_pos (by simp), List.takeWhile_cons_of_neg (by simpa using hc)]
  simp

theorem mark?_indent {s : String} {c : Char} (hs : s.toList.head? = some c) (hc : c ≠ ' ')
    (depth : Nat) : mark? (indent depth ++ s) = some c := by
  obtain ⟨rest, hrest⟩ := List.head?_eq_some_iff.mp hs
  rw [mark?, String.toList_append, hrest, indent, String.toList_ofList,
    List.dropWhile_append_of_pos (by simp), List.dropWhile_cons_of_neg (by simpa using hc)]
  rfl

theorem indent_succ (depth : Nat) : indent (depth + 1) = indent depth ++ "  " := by
  rw [← String.toList_inj]
  simp [indent, Nat.mul_add, List.replicate_add]

end Decl

/-! ### Headers -/

theorem Kind.exists_head?_name {δ : Type} (k : Kind δ) :
    ∃ c, k.name.toList.head? = some c ∧ c.isLower = true := by
  have hall : ∀ s ∈ names, s.toList.head?.any Char.isLower = true := by decide
  exact (Option.any_eq_true _ _).mp (hall k.name k.name_mem_names)

namespace Decl

theorem exists_head?_header (d : Decl) :
    ∃ c, d.header.toList.head? = some c ∧ c.isLower = true := by
  obtain ⟨c, hname, hc⟩ := d.kind.exists_head?_name
  exact ⟨c, by simp [header, List.head?_append, hname], hc⟩

theorem margin_header (depth : Nat) (d : Decl) : margin (indent depth ++ d.header) = 2 * depth := by
  obtain ⟨c, hheader, hc⟩ := d.exists_head?_header
  refine margin_indent hheader ?_ depth
  rintro rfl
  exact absurd hc (by decide)

theorem mark?_header (depth : Nat) (d : Decl) : mark? (indent depth ++ d.header) ≠ some '!' := by
  obtain ⟨c, hheader, hc⟩ := d.exists_head?_header
  rw [mark?_indent hheader (by rintro rfl; exact absurd hc (by decide))]
  rintro ⟨⟩
  exact absurd hc (by decide)

/-- A header has a blank after the name of the kind, and the line above the broken declarations has
none. -/
theorem header_ne_broken (depth : Nat) (d : Decl) : indent depth ++ d.header ≠ "broken:" := by
  intro h
  have hblank : ' ' ∈ (indent depth ++ d.header).toList := by simp [header]
  rw [h] at hblank
  exact absurd hblank (by decide)

end Decl

/-! ### Diagnostics -/

/-- The severity and the message are read off the text: the words for severities begin
differently. -/
theorem Diagnostic.text_inj {a b : Diagnostic} : a.text = b.text ↔ a = b := by
  refine ⟨?_, congrArg text⟩
  obtain ⟨severity, message⟩ := a
  obtain ⟨severity', message'⟩ := b
  rw [← String.toList_inj]
  simp only [text, String.toList_append]
  cases severity <;> cases severity' <;> simp [Severity.text, String.toList_inj]

namespace Decl

def diagnosticLine (depth : Nat) (diagnostic : Diagnostic) : String :=
  indent depth ++ "  ! " ++ diagnostic.text

theorem diagnosticLine_inj {depth : Nat} {a b : Diagnostic} :
    diagnosticLine depth a = diagnosticLine depth b ↔ a = b := by
  rw [← Diagnostic.text_inj, ← String.toList_inj, ← String.toList_inj]
  simp [diagnosticLine]

theorem mark?_diagnosticLine (depth : Nat) (diagnostic : Diagnostic) :
    mark? (diagnosticLine depth diagnostic) = some '!' := by
  have hline : diagnosticLine depth diagnostic
      = indent (depth + 1) ++ ("! " ++ diagnostic.text) := by
    rw [diagnosticLine, indent_succ, ← String.toList_inj]
    simp
  rw [hline]
  exact mark?_indent (by simp) (by decide) _

theorem header_inj {depth : Nat} {d d' : Decl} :
    indent depth ++ d.header = indent depth ++ d'.header ↔ d.header = d'.header := by
  rw [← String.toList_inj, ← String.toList_inj]
  simp

/-! ## Where the lines of a declaration end -/

/-- What may follow declarations at a depth: nothing, or lines of which the first is neither the
header of one more of them, or of anything deeper, nor a diagnostic. -/
structure EndsAt (depth : Nat) (rest : List String) : Prop where
  no_header : ∀ line ∈ rest.head?, ∀ (d : Decl) (deeper : Nat), depth ≤ deeper →
    line ≠ indent deeper ++ d.header
  no_diagnostic : ∀ line ∈ rest.head?, mark? line ≠ some '!'

namespace EndsAt

variable {depth : Nat} {rest : List String}

theorem nil (depth : Nat) : EndsAt depth [] := ⟨nofun, nofun⟩

theorem header (depth : Nat) (d : Decl) (rest : List String) :
    EndsAt (depth + 1) ((indent depth ++ d.header) :: rest) where
  no_header := by
    rintro _ ⟨⟩ e deeper hdeeper heq
    have hmargin := congrArg margin heq
    rw [margin_header, margin_header] at hmargin
    omega
  no_diagnostic := by
    rintro _ ⟨⟩
    exact mark?_header depth d

theorem broken (depth : Nat) (rest : List String) : EndsAt depth ("broken:" :: rest) where
  no_header := by
    rintro _ ⟨⟩ d deeper _ heq
    exact header_ne_broken deeper d heq.symm
  no_diagnostic := by
    rintro _ ⟨⟩
    decide

/-- The siblings of a declaration follow what is inside it. -/
theorem siblings (h : EndsAt depth rest) (ds : List Decl) :
    EndsAt (depth + 1) (ds.flatMap (lines depth) ++ rest) := by
  cases ds with
  | nil =>
    exact ⟨fun line hline d deeper hdeeper => h.no_header line hline d deeper (by omega),
      h.no_diagnostic⟩
  | cons d ds =>
    rw [List.flatMap_cons, lines_eq, List.cons_append, List.cons_append, List.cons_append]
    exact .header depth d _

end EndsAt

/-! ## Reading a dump -/

/-- Two declarations with the same header and the same diagnostics. -/
structure DumpsAlike (d d' : Decl) : Prop where
  header : d'.header = d.header
  diagnostics : d'.diagnostics = d.diagnostics

variable {depth : Nat} {rest rest' : List String}

/-- The diagnostics of a declaration are told from what follows them. -/
theorem diagnosticLines_append_inj {ds ds' : Diagnostics}
    (hrest : ∀ line ∈ rest.head?, mark? line ≠ some '!')
    (hrest' : ∀ line ∈ rest'.head?, mark? line ≠ some '!')
    (h : ds.map (diagnosticLine depth) ++ rest = ds'.map (diagnosticLine depth) ++ rest') :
    ds = ds' ∧ rest = rest' := by
  induction ds generalizing ds' with
  | nil =>
    cases ds' with
    | nil => exact ⟨rfl, h⟩
    | cons diagnostic' ds' =>
      rw [List.map_nil, List.nil_append] at h
      subst h
      exact absurd (mark?_diagnosticLine depth diagnostic') (hrest _ rfl)
  | cons diagnostic ds ih =>
    cases ds' with
    | nil =>
      rw [List.map_nil, List.nil_append] at h
      subst h
      exact absurd (mark?_diagnosticLine depth diagnostic) (hrest' _ rfl)
    | cons diagnostic' ds' =>
      obtain ⟨hhead, htail⟩ := List.cons.inj h
      obtain ⟨rfl, hsame⟩ := ih htail
      rw [diagnosticLine_inj.mp hhead]
      exact ⟨rfl, hsame⟩

theorem flatMap_lines_append_inj {ds ds' : List Decl}
    (ih : ∀ d ∈ ds, ∀ {d' : Decl} {rest rest' : List String}, EndsAt (depth + 1) rest →
      EndsAt (depth + 1) rest' → d.lines depth ++ rest = d'.lines depth ++ rest' →
      d.Throughout DumpsAlike d' ∧ rest = rest')
    (hrest : EndsAt depth rest) (hrest' : EndsAt depth rest')
    (h : ds.flatMap (lines depth) ++ rest = ds'.flatMap (lines depth) ++ rest') :
    List.Forall₂ (Throughout DumpsAlike) ds ds' ∧ rest = rest' := by
  induction ds generalizing ds' with
  | nil =>
    cases ds' with
    | nil => exact ⟨.nil, h⟩
    | cons d' ds' =>
      -- what follows would begin with one more header
      rw [List.flatMap_cons, lines_eq] at h
      simp only [List.flatMap_nil, List.nil_append, List.cons_append] at h
      subst h
      exact absurd rfl (hrest.no_header _ rfl d' depth (Nat.le_refl depth))
  | cons d ds ihds =>
    cases ds' with
    | nil =>
      rw [List.flatMap_cons, lines_eq] at h
      simp only [List.flatMap_nil, List.nil_append, List.cons_append] at h
      subst h
      exact absurd rfl (hrest'.no_header _ rfl d depth (Nat.le_refl depth))
    | cons d' ds' =>
      rw [List.flatMap_cons, List.flatMap_cons, List.append_assoc, List.append_assoc] at h
      obtain ⟨hd, htail⟩ := ih d (List.mem_cons_self ..) (hrest.siblings ds)
        (hrest'.siblings ds') h
      obtain ⟨hds, hsame⟩ := ihds (fun c hc => ih c (List.mem_cons_of_mem d hc)) htail
      exact ⟨.cons hd hds, hsame⟩

/-- **The lines of a declaration are told from what follows them**, and tell its shape, the headers
and the diagnostics. -/
theorem lines_append_inj {d d' : Decl} (hrest : EndsAt (depth + 1) rest)
    (hrest' : EndsAt (depth + 1) rest') (h : d.lines depth ++ rest = d'.lines depth ++ rest') :
    d.Throughout DumpsAlike d' ∧ rest = rest' := by
  induction d using induction generalizing d' depth rest rest' with
  | step d ih =>
    rw [lines_eq, lines_eq, List.cons_append, List.cons_append, List.cons_append,
      List.cons_append, List.append_assoc, List.append_assoc] at h
    obtain ⟨hheader, hbody⟩ := List.cons.inj h
    obtain ⟨hdiagnostics, hchildren⟩ := diagnosticLines_append_inj
      (hrest.siblings d.children).no_diagnostic (hrest'.siblings d'.children).no_diagnostic hbody
    obtain ⟨hbelow, hsame⟩ := flatMap_lines_append_inj (fun c hc => ih c hc) hrest hrest' hchildren
    exact ⟨.node ⟨(header_inj.mp hheader).symm, hdiagnostics.symm⟩ hbelow, hsame⟩

theorem forest_lines_append_inj {ds ds' : List Decl} (hrest : EndsAt depth rest)
    (hrest' : EndsAt depth rest')
    (h : ds.flatMap (lines depth) ++ rest = ds'.flatMap (lines depth) ++ rest') :
    List.Forall₂ (Throughout DumpsAlike) ds ds' ∧ rest = rest' :=
  flatMap_lines_append_inj (fun _ _ => lines_append_inj) hrest hrest' h

theorem Throughout.lines_eq {d d' : Decl} (h : d.Throughout DumpsAlike d') (depth : Nat) :
    d'.lines depth = d.lines depth := by
  refine h.induction (P := fun d d' => ∀ depth, d'.lines depth = d.lines depth) ?_ depth
  intro d d' hhere hbelow depth
  have hchildren : d'.children.map (lines (depth + 1)) = d.children.map (lines (depth + 1)) :=
    map_eq_of_forall₂ (hbelow.imp fun _ _ hc => hc (depth + 1))
  rw [Decl.lines_eq, Decl.lines_eq, hhere.header, hhere.diagnostics, List.flatMap_def,
    List.flatMap_def, hchildren]

theorem forest_lines_eq {ds ds' : List Decl} (h : List.Forall₂ (Throughout DumpsAlike) ds ds')
    (depth : Nat) : ds'.flatMap (lines depth) = ds.flatMap (lines depth) := by
  rw [List.flatMap_def, List.flatMap_def,
    map_eq_of_forall₂ (h.imp fun _ _ hd => hd.lines_eq depth)]

end Decl

namespace Library

/-- The line above the broken declarations tells them from the trees. -/
theorem lines_inj {L M : Library} : L.lines = M.lines ↔
    List.Forall₂ (Decl.Throughout Decl.DumpsAlike) L.roots M.roots ∧
    List.Forall₂ (Decl.Throughout Decl.DumpsAlike) L.broken M.broken := by
  have hend : ∀ broken : List Decl, Decl.EndsAt 0
      (if broken.isEmpty then [] else "broken:" :: broken.flatMap (Decl.lines 1)) := by
    intro broken
    split
    · exact .nil 0
    · exact .broken 0 _
  constructor
  · intro h
    obtain ⟨hroots, hrest⟩ := Decl.forest_lines_append_inj (hend L.broken) (hend M.broken) h
    refine ⟨hroots, ?_⟩
    by_cases hL : L.broken.isEmpty <;> by_cases hM : M.broken.isEmpty
    · rw [List.isEmpty_iff.mp hL, List.isEmpty_iff.mp hM]
      exact .nil
    · rw [if_pos hL, if_neg hM] at hrest
      exact absurd hrest nofun
    · rw [if_neg hL, if_pos hM] at hrest
      exact absurd hrest nofun
    · rw [if_neg hL, if_neg hM] at hrest
      have hbroken := (List.cons.inj hrest).2
      rw [← List.append_nil (L.broken.flatMap _), ← List.append_nil (M.broken.flatMap _)] at hbroken
      exact (Decl.forest_lines_append_inj (.nil 1) (.nil 1) hbroken).1
  · rintro ⟨hroots, hbroken⟩
    have hempty : M.broken.isEmpty = L.broken.isEmpty := by
      rw [Bool.eq_iff_iff, List.isEmpty_iff_length_eq_zero, List.isEmpty_iff_length_eq_zero,
        hbroken.length_eq]
    rw [lines, lines, Decl.forest_lines_eq hroots, Decl.forest_lines_eq hbroken, hempty]

/-- **What two dumps have in common.**  Where no text in two libraries breaks a line, their dumps
agree iff their trees and their broken declarations have the same shapes, with the same headers and
diagnostics at every position. -/
theorem dump_eq_iff {L M : Library} (hL : ∀ s ∈ L.texts, OneLine s)
    (hM : ∀ s ∈ M.texts, OneLine s) : L.dump = M.dump ↔
      List.Forall₂ (Decl.Throughout Decl.DumpsAlike) L.roots M.roots ∧
      List.Forall₂ (Decl.Throughout Decl.DumpsAlike) L.broken M.broken := by
  rw [← lines_inj]
  exact Decl.textOfLines_inj (fun _ => oneLine_of_mem_lines hL) fun _ => oneLine_of_mem_lines hM

/-- **The dump determines the shape and the diagnostics.**  Two libraries with the same dump, in
which no text breaks a line, have trees of the same shape and broken declarations of the same shape,
and declarations at the same position carry the same diagnostics in the same order. -/
theorem dump_determines_shape {L M : Library} (hL : ∀ s ∈ L.texts, OneLine s)
    (hM : ∀ s ∈ M.texts, OneLine s) (h : L.dump = M.dump) :
    List.Forall₂ (Decl.Throughout fun d d' => d'.diagnostics = d.diagnostics) L.roots M.roots ∧
    List.Forall₂ (Decl.Throughout fun d d' => d'.diagnostics = d.diagnostics)
      L.broken M.broken := by
  obtain ⟨hroots, hbroken⟩ := (dump_eq_iff hL hM).mp h
  exact ⟨hroots.imp fun _ _ hd => hd.mono fun hhere => hhere.diagnostics,
    hbroken.imp fun _ _ hd => hd.mono fun hhere => hhere.diagnostics⟩

end Library

namespace Sample

/-- An internal record with a method, whose parameter is a line break by default, and a declaration
that was taken out. -/
def labelled : Library :=
  let separator := Decl.ofKind 1 "separator" 0
    (.parameter (.pointer (.scalar .char16)) (some (.string "\n")))
  let method := Decl.ofKind 2 "Join" 0 (.newMethod "Join" [separator.append ⟨.info, "seen"⟩])
  let record := (Decl.ofKind 3 "Node" 0 (.record (.ofMembers [method]))).append ⟨.warning, "unused"⟩
  let template := Decl.ofKind 4 "List" 0 (.unsupported "ClassTemplate")
  ⟨["node.h"], [{ record with accessibility := .internalAccess }],
    [template.append ⟨.error, "template"⟩], 5⟩

/-- A public record whose name ends as if the record were internal, with other ids and no file. -/
def mislabelled : Library :=
  let separator := Decl.ofKind 5 "separator" 0
    (.parameter (.pointer (.scalar .char16)) (some (.string "\n")))
  let method := Decl.ofKind 6 "Join" 0 (.newMethod "?Join\n" [separator.append ⟨.info, "seen"⟩])
  let record := Decl.ofKind 7 "Node (internal)" 0 (.record (.ofMembers [method]))
  let template := Decl.ofKind 8 "List" 0 (.unsupported "ClassTemplate")
  ⟨[], [record.append ⟨.warning, "unused"⟩], [template.append ⟨.error, "template"⟩], 9⟩

end Sample

/-- The dump tells neither the ids nor which record is internal, but the shape. -/
theorem Library.dump_determines_shape_mislabelled :
    let L := Sample.labelled
    let M := Sample.mislabelled
    (∀ s ∈ L.texts, OneLine s) ∧ (∀ s ∈ M.texts, OneLine s) ∧ L.dump = M.dump ∧
    L.ids = [3, 2, 1] ∧ M.ids = [7, 6, 5] ∧
    List.Forall₂ (Decl.Throughout fun d d' => d'.diagnostics = d.diagnostics) L.roots M.roots ∧
    List.Forall₂ (Decl.Throughout fun d d' => d'.diagnostics = d.diagnostics)
      L.broken M.broken := by
  intro L M
  have hL : ∀ s ∈ L.texts, OneLine s := by decide +kernel
  have hM : ∀ s ∈ M.texts, OneLine s := by decide +kernel
  have hdump : L.dump = M.dump := by decide +kernel
  exact ⟨hL, hM, hdump, by decide +kernel, by decide +kernel, dump_determines_shape hL hM hdump⟩

end NativeApi

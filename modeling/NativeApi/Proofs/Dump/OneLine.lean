import NativeApi.Library.Dump
import NativeApi.Proofs.Typedefs.Acyclic

/-!
# Lines of the dump

A dump is one text made of lines, and copies names, messages and spellings as they are.  Where none
of these breaks a line, nothing does: kinds and levels are words, numbers have digits only, and
constant texts are quoted.  Then every line of the dump stays on its line, and the lines can be read
off the text.

* `Decl.texts`: what the dump copies of a declaration.
* `Decl.oneLine_of_mem_lines`, `Library.oneLine_of_mem_lines`: nothing else could break a line.
* `Decl.textOfLines_inj`: lines that stay on their line are read off their text.
-/

namespace NativeApi

/-! ## Texts on one line -/

def OneLine (s : String) : Prop := '\n' ∉ s.toList

instance (s : String) : Decidable (OneLine s) := inferInstanceAs (Decidable ('\n' ∉ s.toList))

@[simp] theorem oneLine_append {s t : String} : OneLine (s ++ t) ↔ OneLine s ∧ OneLine t := by
  simp [OneLine]

theorem oneLine_ite {p : Prop} [Decidable p] {s t : String} (hs : OneLine s) (ht : OneLine t) :
    OneLine (if p then s else t) := by
  split
  · exact hs
  · exact ht

theorem oneLine_intercalate {separator : String} (hseparator : OneLine separator)
    {texts : List String} (h : ∀ s ∈ texts, OneLine s) :
    OneLine (separator.intercalate texts) := by
  induction texts with
  | nil => simp [OneLine]
  | cons s texts ih =>
    obtain ⟨hs, htexts⟩ := List.forall_mem_cons.mp h
    by_cases hnil : texts = []
    · subst hnil
      simpa using hs
    · rw [String.intercalate_cons_of_ne_nil hnil]
      simp [hs, hseparator, ih htexts]

/-! ### Numbers and constants -/

theorem oneLine_nat (n : Nat) : OneLine (toString n) := by
  simp [OneLine, Nat.toString_eq_repr, Text.newline_not_mem_toDigits]

theorem oneLine_int (n : Int) : OneLine (toString n) := by
  cases n with
  | ofNat n => exact oneLine_nat n
  | negSucc n =>
    show OneLine ("-" ++ toString (n + 1))
    exact oneLine_append.mpr ⟨by decide, oneLine_nat (n + 1)⟩

namespace FloatStyle

theorem oneLine_positional {digits : String} (h : OneLine digits) (exponent : Int) :
    OneLine (positional digits exponent) := by
  have hpadded : '\n' ∉ List.replicate ((-exponent).toNat + 1 - digits.length) '0'
      ++ digits.toList := by
    rw [List.mem_append, not_or]
    exact ⟨by simp, h⟩
  have hwhole := fun k hmem => hpadded (List.mem_of_mem_take (i := k) hmem)
  have hplaces := fun k hmem => hpadded (List.mem_of_mem_drop (i := k) hmem)
  unfold positional
  refine oneLine_ite ?_ ?_
  · simpa [OneLine] using h
  · simp only [OneLine, String.toList_append, String.toList_ofList, List.mem_append, not_or]
    exact ⟨⟨hwhole _, by decide⟩, hplaces _⟩

theorem oneLine_scientific (plusSign : Bool) {digits : String} (h : OneLine digits)
    (exponent : Int) : OneLine (scientific plusSign digits exponent) := by
  unfold scientific
  simp only [oneLine_append]
  refine ⟨⟨⟨?_, by decide⟩, oneLine_ite (by decide) (by decide)⟩, oneLine_int _⟩
  split
  · next first second rest hdigits =>
    -- only the point is new
    rw [OneLine, hdigits] at h
    rw [OneLine, String.toList_ofList]
    simpa using h
  · exact h

theorem oneLine_decimal (style : FloatStyle) (d : Decimal) : OneLine (style.decimal d) :=
  oneLine_ite (oneLine_positional (oneLine_nat _) _) (oneLine_scientific _ (oneLine_nat _) _)

theorem oneLine_text (style : FloatStyle) (x : Binary64) : OneLine (style.text x) := by
  unfold text
  split
  · decide
  · extract_lets unsigned
    have hunsigned : OneLine unsigned := by
      refine oneLine_ite (by decide) ?_
      split
      · exact style.oneLine_decimal _
      · decide
    exact oneLine_ite (oneLine_append.mpr ⟨by decide, hunsigned⟩) hunsigned

end FloatStyle

/-- Quotes keep a text on its line, whatever is in it. -/
theorem oneLine_quote (s : String) : OneLine (Text.quote s) := by
  rw [OneLine, Text.quote, String.toList_ofList]
  simp [Text.newline_not_mem_escape]

/-! ## What the dump copies -/

namespace TypeRef

mutual

/-- The names of references and the spellings in a type. -/
def texts : TypeRef → List String
  | .decl ref => [ref.name]
  | .native spelling => [spelling]
  | .pointer target => target.texts
  | .function result parameters _ => result.texts ++ textsAll parameters
  | .void | .scalar _ => []

def textsAll : List TypeRef → List String
  | [] => []
  | type :: types => type.texts ++ textsAll types

end

theorem textsAll_eq_flatMap (types : List TypeRef) : textsAll types = types.flatMap texts := by
  induction types with
  | nil => rfl
  | cons type types ih => rw [textsAll, ih, List.flatMap_cons]

theorem oneLine_text {type : TypeRef} (h : ∀ s ∈ type.texts, OneLine s) : OneLine type.text := by
  induction type using TypeRef.induction with
  | void => decide
  | scalar s => cases s <;> decide
  | pointer target ih =>
    rw [text, oneLine_append]
    exact ⟨by decide, ih h⟩
  | function result parameters convention hresult hparameters =>
    rw [texts, textsAll_eq_flatMap] at h
    have hconvention : OneLine convention.text := by cases convention <;> decide
    have hlist : OneLine (", ".intercalate (parameters.map text)) := by
      refine oneLine_intercalate (by decide) ?_
      simp only [List.forall_mem_map]
      intro type htype
      refine hparameters type htype fun s hs => h s ?_
      exact List.mem_append_right _ (List.mem_flatMap_of_mem htype hs)
    rw [text, textAll_eq_map]
    simp only [oneLine_append]
    exact ⟨⟨⟨⟨⟨by decide, hconvention⟩, by decide⟩, hlist⟩, by decide⟩,
      hresult fun s hs => h s (List.mem_append_left _ hs)⟩
  | decl ref =>
    rw [text]
    simp only [oneLine_append]
    exact ⟨⟨h ref.name (List.mem_singleton_self _), by decide⟩, oneLine_nat _⟩
  | native spelling =>
    rw [text]
    simp only [oneLine_append]
    exact ⟨⟨by decide, h spelling (List.mem_singleton_self _)⟩, by decide⟩

end TypeRef

def Constant.texts : Constant → List String
  | unsupported spelling => [spelling]
  | _ => []

theorem Constant.oneLine_text {value : Constant} (h : ∀ s ∈ value.texts, OneLine s) :
    OneLine value.text := by
  cases value with
  | integer value => exact oneLine_int value
  | float value => exact floatStyle.oneLine_text value
  | string value => exact oneLine_quote value
  | unsupported spelling =>
    simp only [text, oneLine_append]
    exact ⟨⟨by decide, h spelling (List.mem_singleton_self _)⟩, by decide⟩

namespace Kind

variable {δ : Type}

/-- The descriptions in a kind, and the spelling of a default value that could not be evaluated. -/
def descriptions : Kind δ → List String
  | parameter _ (some value) => value.texts
  | field _ (.unimplemented what _) => [what]
  | unsupported what => [what]
  | _ => []

/-- What the dump copies of a kind: what is in its type, and descriptions. -/
def texts (k : Kind δ) : List String := k.type?.toList.flatMap TypeRef.texts ++ k.descriptions

def names : List String :=
  ["record", "enum", "enum constant", "function", "parameter", "field", "base field",
   "vtable field", "bitfield", "unimplemented field", "static field", "vtable", "typedef",
   "undefined record", "unsupported declaration", "loose declarations", "native boolean",
   "native char"]

theorem name_mem_names (k : Kind δ) : k.name ∈ names := by
  cases k with
  | field _ content => cases content <;> simp [name, names]
  | container role => cases role <;> simp [name, names]
  | _ => simp [name, names]

theorem oneLine_name (k : Kind δ) : OneLine k.name :=
  have hall : ∀ s ∈ names, OneLine s := by decide
  hall k.name k.name_mem_names

theorem oneLine_details {k : Kind δ} (h : ∀ s ∈ k.texts, OneLine s) : OneLine k.details := by
  have htype : ∀ type, k.type? = some type → OneLine type.text := by
    intro type htype
    refine TypeRef.oneLine_text fun s hs => h s (List.mem_append_left _ ?_)
    rw [htype]
    simpa using hs
  have hdescription : ∀ s ∈ k.descriptions, OneLine s := fun s hs =>
    h s (List.mem_append_right _ hs)
  cases k with
  | record r =>
    refine oneLine_append.mpr ⟨oneLine_ite (by decide) (by decide), oneLine_ite (by decide) ?_⟩
    simp only [oneLine_append]
    exact ⟨⟨by decide, oneLine_nat _⟩, by decide⟩
  | enumeration e =>
    simp only [details, oneLine_append]
    exact ⟨⟨by decide, htype _ rfl⟩, oneLine_ite (by decide) (by decide)⟩
  | enumConstant value isExplicit =>
    exact oneLine_append.mpr ⟨by decide, oneLine_nat value⟩
  | function f =>
    simp only [details, oneLine_append]
    exact ⟨⟨⟨⟨by decide, htype _ rfl⟩, oneLine_ite (by decide) (by decide)⟩,
      oneLine_ite (by decide) (by decide)⟩, oneLine_ite (by decide) (by decide)⟩
  | parameter type value =>
    cases value with
    | none => exact oneLine_append.mpr ⟨by decide, htype _ rfl⟩
    | some value =>
      simp only [details, oneLine_append]
      exact ⟨⟨⟨by decide, htype _ rfl⟩, by decide⟩, Constant.oneLine_text hdescription⟩
  | field offset content =>
    cases content with
    | normal type | base type =>
      simp only [details, oneLine_append]
      exact ⟨⟨⟨by decide, htype _ rfl⟩, by decide⟩, oneLine_nat offset⟩
    | vtablePointer => exact oneLine_append.mpr ⟨by decide, oneLine_nat offset⟩
    | bits start width type =>
      simp only [details, oneLine_append]
      exact ⟨⟨⟨⟨⟨⟨⟨by decide, htype _ rfl⟩, by decide⟩, oneLine_nat offset⟩, by decide⟩,
        oneLine_nat start⟩, by decide⟩, oneLine_nat width⟩
    | unimplemented what size =>
      simp only [details, oneLine_append]
      exact ⟨⟨⟨by decide, hdescription what (List.mem_singleton_self _)⟩, by decide⟩,
        oneLine_nat offset⟩
  | staticField mangledName type => exact oneLine_append.mpr ⟨by decide, htype _ rfl⟩
  | vtable entries =>
    simp only [details, oneLine_append]
    exact ⟨⟨by decide, oneLine_nat _⟩, by decide⟩
  | typedef type => exact oneLine_append.mpr ⟨by decide, htype _ rfl⟩
  | unsupported what =>
    simp only [details, oneLine_append]
    exact ⟨⟨by decide, hdescription what (List.mem_singleton_self _)⟩, by decide⟩
  | undefinedRecord | container role members => exact (by decide : OneLine "")

end Kind

theorem Diagnostic.oneLine_text {d : Diagnostic} (h : OneLine d.message) : OneLine d.text := by
  have hseverity : OneLine d.severity.text := by cases d.severity <;> decide
  simp only [text, oneLine_append]
  exact ⟨⟨hseverity, by decide⟩, h⟩

namespace Decl

/-- What the dump copies of a declaration as it is: the name, the messages of the diagnostics, and
names, spellings and descriptions in the kind. -/
def texts (d : Decl) : List String :=
  d.name :: d.diagnostics.map Diagnostic.message ++ d.kind.texts

theorem oneLine_indent (depth : Nat) : OneLine (indent depth) := by
  simp [OneLine, indent]

theorem oneLine_header {d : Decl} (h : ∀ s ∈ d.texts, OneLine s) : OneLine d.header := by
  have hname : OneLine d.name := h d.name (by simp [texts])
  have hdetails : OneLine d.kind.details :=
    Kind.oneLine_details fun s hs => h s (by simp [texts, hs])
  have haccess : OneLine d.accessibility.text := by cases d.accessibility <;> decide
  rw [header]
  simp only [oneLine_append]
  refine ⟨⟨⟨⟨d.kind.oneLine_name, by decide⟩, oneLine_ite (by decide) hname⟩, hdetails⟩,
    oneLine_ite (by decide) ?_⟩
  simp only [oneLine_append]
  exact ⟨⟨by decide, haccess⟩, by decide⟩

/-- **Nothing else breaks a line.**  Where the texts in a declaration and in everything inside it
are on one line each, so is every line of its dump. -/
theorem oneLine_of_mem_lines {d : Decl} (h : ∀ e ∈ d.subtree, ∀ s ∈ e.texts, OneLine s)
    {depth : Nat} {line : String} (hline : line ∈ d.lines depth) : OneLine line := by
  induction d using induction generalizing depth with
  | step d ih =>
    rw [subtree_eq, List.forall_mem_cons] at h
    obtain ⟨hhere, hinside⟩ := h
    rw [lines_eq, List.cons_append, List.mem_cons, List.mem_append] at hline
    rcases hline with rfl | hdiagnostic | hbelow
    · exact oneLine_append.mpr ⟨oneLine_indent depth, oneLine_header hhere⟩
    · obtain ⟨diagnostic, hmem, rfl⟩ := List.mem_map.mp hdiagnostic
      have hmessage : OneLine diagnostic.message :=
        hhere _ (by simp [texts, List.mem_map_of_mem hmem])
      simp only [oneLine_append]
      exact ⟨⟨oneLine_indent depth, by decide⟩, Diagnostic.oneLine_text hmessage⟩
    · obtain ⟨c, hc, hline⟩ := List.mem_flatMap.mp hbelow
      exact ih c hc (fun e he => hinside e (List.mem_flatMap_of_mem hc he)) hline

/-! ## Lines and their text -/

theorem append_newline_inj {xs ys rest rest' : List Char} (hxs : '\n' ∉ xs) (hys : '\n' ∉ ys)
    (h : xs ++ '\n' :: rest = ys ++ '\n' :: rest') : xs = ys ∧ rest = rest' := by
  induction xs generalizing ys with
  | nil =>
    cases ys with
    | nil => exact ⟨rfl, (List.cons.inj h).2⟩
    | cons y ys =>
      obtain ⟨hhead, -⟩ := List.cons.inj h
      exact absurd (hhead ▸ List.mem_cons_self ..) hys
  | cons x xs ih =>
    cases ys with
    | nil =>
      obtain ⟨hhead, -⟩ := List.cons.inj h
      exact absurd (hhead ▸ List.mem_cons_self ..) hxs
    | cons y ys =>
      obtain ⟨rfl, htail⟩ := List.cons.inj h
      rw [List.mem_cons, not_or] at hxs hys
      obtain ⟨rfl, hrest⟩ := ih hxs.2 hys.2 htail
      exact ⟨rfl, hrest⟩

theorem toList_textOfLines (lines : List String) :
    (textOfLines lines).toList = lines.flatMap fun line => line.toList ++ ['\n'] := by
  simp [textOfLines, String.toList_join, List.flatMap_map]

/-- **Lines are read off their text.** -/
theorem textOfLines_inj {lines lines' : List String} (hlines : ∀ line ∈ lines, OneLine line)
    (hlines' : ∀ line ∈ lines', OneLine line) :
    textOfLines lines = textOfLines lines' ↔ lines = lines' := by
  refine ⟨?_, congrArg textOfLines⟩
  rw [← String.toList_inj, toList_textOfLines, toList_textOfLines]
  intro h
  induction lines generalizing lines' with
  | nil =>
    cases lines' with
    | nil => rfl
    | cons line' lines' => simp at h
  | cons line lines ih =>
    cases lines' with
    | nil => simp at h
    | cons line' lines' =>
      rw [List.forall_mem_cons] at hlines hlines'
      rw [List.flatMap_cons, List.flatMap_cons, List.append_assoc, List.append_assoc] at h
      obtain ⟨hhead, htail⟩ := append_newline_inj hlines.1 hlines'.1 h
      rw [String.toList_inj.mp hhead, ih hlines.2 hlines'.2 htail]

end Decl

namespace Library

def texts (L : Library) : List String :=
  (L.decls ++ L.broken.flatMap Decl.subtree).flatMap Decl.texts

theorem oneLine_of_mem_lines {L : Library} (h : ∀ s ∈ L.texts, OneLine s) {line : String}
    (hline : line ∈ L.lines) : OneLine line := by
  have htree : ∀ d ∈ L.roots ++ L.broken, ∀ e ∈ d.subtree, ∀ s ∈ e.texts, OneLine s := by
    intro d hd e he s hs
    refine h s (List.mem_flatMap_of_mem ?_ hs)
    rw [decls, ← List.flatMap_append]
    exact List.mem_flatMap_of_mem hd he
  rw [lines, List.mem_append] at hline
  rcases hline with hroots | hbroken
  · obtain ⟨d, hd, hline⟩ := List.mem_flatMap.mp hroots
    exact Decl.oneLine_of_mem_lines (htree d (List.mem_append_left _ hd)) hline
  · split at hbroken
    · exact absurd hbroken List.not_mem_nil
    · rcases List.mem_cons.mp hbroken with rfl | hbroken
      · decide
      · obtain ⟨d, hd, hline⟩ := List.mem_flatMap.mp hbroken
        exact Decl.oneLine_of_mem_lines (htree d (List.mem_append_right _ hd)) hline

end Library

end NativeApi

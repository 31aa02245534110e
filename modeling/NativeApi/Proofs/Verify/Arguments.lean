import Mathlib.Data.List.Forall2
import NativeApi.Proofs.Verify.Accounting
import NativeApi.Proofs.Verify.Placement
import NativeApi.Proofs.Verify.Renaming

/-!
# Warnings about split arguments

A function gets a warning for each argument that is split into parts.  Findings are told apart by
their texts alone, and a parameter may have any name, none, or one that other parameters have too.
The texts differ all the same, since each has the position of its parameter in front of all names.

* `Callable.NamesArgument`: how an argument is spoken of.  `Callable.namesArgument_iff`: these are
  the words that the call rules use.
* `Callable.NamesArgument.index_eq`: warnings about two arguments never read the same.
* `IsArgumentText`: what reads like a warning about an argument.  No other finding about a function
  does (`IsArgumentText.message_ne`).
* `verify_warns_of_each_argument`: **every argument that is split gets its own warning**.
-/

namespace NativeApi

/-! ## Words for arguments -/

namespace Callable

variable {f : Callable Decl} {functionName words : String} {index position : Nat}

/-- An argument passes the parameter at a position: argument 0 of an instance method is the
receiver, and the parameters follow. -/
def Passes (f : Callable Decl) (index position : Nat) : Prop :=
  index = if f.isInstance then position + 1 else position

/-- How the argument of a function is spoken of: as the receiver, or by the position of its
parameter with the name of the parameter, or with that of the function if there is no such parameter
or it has no name. -/
inductive NamesArgument (f : Callable Decl) (functionName : String) : Nat → String → Prop
  | receiver : f.isInstance = true → NamesArgument f functionName 0 "this pointer parameter"
  | named {index position : Nat} {p : Decl} : f.Passes index position →
      f.parameters[position]? = some p → p.name ≠ "" →
      NamesArgument f functionName index
        ("parameter #" ++ toString position ++ " " ++ ("`" ++ p.name ++ "`"))
  | unnamed {index position : Nat} : f.Passes index position →
      (∀ p, f.parameters[position]? = some p → p.name = "") →
      NamesArgument f functionName index
        ("parameter #" ++ toString position ++ " of " ++ ("`" ++ functionName ++ "`"))

/-- What an argument is called when it is not the receiver. -/
theorem argumentName_of_passes (h : f.Passes index position) :
    f.argumentName functionName index =
      let name := (f.parameters[position]?.map Decl.name).getD ""
      if name = "" then
        "parameter #" ++ toString position ++ " of " ++ Issue.ticked functionName
      else "parameter #" ++ toString position ++ " " ++ Issue.ticked name := by
  rw [Passes] at h
  rw [argumentName]
  cases hinstance : f.isInstance with
  | false =>
    rw [hinstance] at h
    obtain rfl : index = position := h
    rfl
  | true =>
    rw [hinstance] at h
    obtain rfl : index = position + 1 := h
    rfl

/-- **The call rules speak of arguments in this way.** -/
theorem namesArgument_iff :
    f.NamesArgument functionName index words ↔ words = f.argumentName functionName index := by
  constructor
  · intro h
    cases h with
    | receiver hinstance =>
      rw [argumentName, hinstance]
      rfl
    | named hpasses hp hname =>
      rw [argumentName_of_passes hpasses, hp]
      exact (if_neg hname).symm
    | @unnamed _ position hpasses hnameless =>
      rw [argumentName_of_passes hpasses]
      refine (if_pos ?_).symm
      cases hp : f.parameters[position]? with
      | none => rfl
      | some p => exact hnameless p hp
  · rintro rfl
    have hposition (position : Nat) (hpasses : f.Passes index position) :
        f.NamesArgument functionName index (f.argumentName functionName index) := by
      rw [argumentName_of_passes hpasses]
      dsimp only
      split
      · next hnameless =>
        refine .unnamed hpasses fun p hp => ?_
        rw [hp] at hnameless
        exact hnameless
      · next hnamed =>
        cases hp : f.parameters[position]? with
        | none =>
          rw [hp] at hnamed
          exact absurd rfl hnamed
        | some p =>
          rw [hp] at hnamed
          exact .named hpasses hp hnamed
    cases hinstance : f.isInstance with
    | false => exact hposition index (by rw [Passes, hinstance]; rfl)
    | true =>
      cases index with
      | zero =>
        rw [argumentName, hinstance]
        exact .receiver hinstance
      | succ position => exact hposition position (by rw [Passes, hinstance]; rfl)

/-! ### Words are told apart -/

theorem eq_of_numbered {n m : Nat} {opening rest rest' ending ending' : String}
    (h : opening ++ toString n ++ (" " ++ rest) ++ ending
      = opening ++ toString m ++ (" " ++ rest') ++ ending') : n = m := by
  have hdigits (k : Nat) (rest : List Char) :
      (Nat.toDigits 10 k ++ ' ' :: rest).takeWhile Char.isDigit = Nat.toDigits 10 k := by
    have hall : ∀ c ∈ Nat.toDigits 10 k, c.isDigit = true := fun c hc =>
      Nat.isDigit_of_mem_toDigits (by decide) (by decide) hc
    rw [List.takeWhile_append_of_pos hall, List.takeWhile_cons_of_neg (by decide),
      List.append_nil]
  have hlists := congrArg String.toList h
  simp only [String.toList_append, List.append_assoc, List.append_right_inj, Nat.toString_eq_repr,
    Nat.toList_repr] at hlists
  have hsame : Nat.toDigits 10 n = Nat.toDigits 10 m := by
    rw [← hdigits n (rest.toList ++ ending.toList), ← hdigits m (rest'.toList ++ ending'.toList)]
    exact congrArg (List.takeWhile Char.isDigit) hlists
  rw [← Nat.ofDigitChars_ten_toDigits (n := n), hsame, Nat.ofDigitChars_ten_toDigits]

/-- A warning about an argument begins with the words for it. -/
theorem exists_message_expandedArgument (passed : ArgumentClass) : ∃ ending, ∀ words,
    (Issue.expandedArgument words passed).message = words ++ ending :=
  ⟨_, fun _ => String.append_assoc.trans String.append_assoc⟩

namespace NamesArgument

variable {index' : Nat} {words' : String} {passed passed' : ArgumentClass}

/-- The words are those for the receiver, or begin with the position of the parameter. -/
theorem receiver_or_numbered (h : f.NamesArgument functionName index words) :
    (index = 0 ∧ words = "this pointer parameter") ∨
    ∃ position rest, f.Passes index position ∧
      words = "parameter #" ++ toString position ++ (" " ++ rest) := by
  cases h with
  | receiver => exact .inl ⟨rfl, rfl⟩
  | @named _ position p hpasses =>
    refine .inr ⟨position, "`" ++ p.name ++ "`", hpasses, ?_⟩
    rw [String.append_assoc]
  | @unnamed _ position hpasses =>
    refine .inr ⟨position, "of " ++ ("`" ++ functionName ++ "`"), hpasses, ?_⟩
    have hof : " of " ++ ("`" ++ functionName ++ "`")
        = " " ++ ("of " ++ ("`" ++ functionName ++ "`")) := @String.append_assoc " " "of " _
    rw [String.append_assoc, hof]

/-- **Warnings about two arguments of a function never read the same**, whatever the names. -/
theorem index_eq (h : f.NamesArgument functionName index words)
    (h' : f.NamesArgument functionName index' words')
    (heq : (Issue.expandedArgument words passed).message
      = (Issue.expandedArgument words' passed').message) : index = index' := by
  obtain ⟨ending, hending⟩ := exists_message_expandedArgument passed
  obtain ⟨ending', hending'⟩ := exists_message_expandedArgument passed'
  have hreceiver (ending : String) :
      BeginsWith "this pointer parameter" ("this pointer parameter" ++ ending) :=
    (BeginsWith.refl _).append _
  have hnumbered (position : Nat) (rest ending : String) :
      BeginsWith "parameter #" ("parameter #" ++ toString position ++ rest ++ ending) :=
    (((BeginsWith.refl _).append _).append _).append _
  rw [hending, hending'] at heq
  obtain ⟨rfl, rfl⟩ | ⟨position, rest, hpasses, rfl⟩ := h.receiver_or_numbered <;>
    obtain ⟨rfl, rfl⟩ | ⟨position', rest', hpasses', rfl⟩ := h'.receiver_or_numbered
  · rfl
  · exact absurd heq ((hreceiver _).ne (hnumbered ..) (by decide))
  · exact absurd heq ((hnumbered ..).ne (hreceiver _) (by decide))
  · -- a blank follows the position, so it can be read off
    obtain rfl : position = position' := eq_of_numbered heq
    exact hpasses.trans hpasses'.symm

end NamesArgument

end Callable

/-! ## Texts of warnings -/

/-- A text reads like a warning about an argument of some function. -/
def IsArgumentText (text : String) : Prop :=
  ∃ (f : Callable Decl) (functionName : String) (index : Nat) (words : String)
    (passed : ArgumentClass), f.NamesArgument functionName index words ∧
    text = (Issue.expandedArgument words passed).message

/-- The findings of the other rules for calls. -/
inductive Issue.FromOtherCallRule : Issue → Prop
  | missing : FromOtherCallRule .missingArrangement
  | convention (called effective : CallingConvention) :
      FromOtherCallRule (.nonDefaultConvention called effective)
  | unrecognized (spelling : String) : FromOtherCallRule (.unrecognizedConvention spelling)
  | inAlloca : FromOtherCallRule .inAllocaArguments
  | extendedInfo : FromOtherCallRule .extendedInfo
  | result (passed : ArgumentClass) : FromOtherCallRule (.expandedResult passed)

/-- How the wordings of the other findings about a function begin. -/
def otherOpenings : List String :=
  ["`", "virtual methods ", "function ", "return value ", "type reference "]

/-- A finding begins like one of the other findings about a function. -/
def Issue.OpensOtherwise (issue : Issue) : Prop :=
  ∃ opening ∈ otherOpenings, BeginsWith opening issue.message

/-- **No other finding about a function reads like a warning about an argument.** -/
theorem IsArgumentText.message_ne {text : String} {issue : Issue} (h : IsArgumentText text)
    (hissue : issue.OpensOtherwise) : text ≠ issue.message := by
  obtain ⟨f, functionName, index, words, passed, hwords, rfl⟩ := h
  obtain ⟨opening, hopening, hother⟩ := hissue
  obtain ⟨ending, hending⟩ := Callable.exists_message_expandedArgument passed
  rw [Callable.namesArgument_iff.mp hwords, hending]
  have hdiffer : ∀ opening ∈ otherOpenings,
      ∀ first ∈ ["this pointer parameter", "parameter #"],
        ¬ (first.toList <+: opening.toList ∨ opening.toList <+: first.toList) := by decide
  rcases f.beginsWith_argumentName functionName index with hfirst | hfirst
  · exact (hfirst.append _).ne hother (hdiffer opening hopening _ (by decide))
  · exact (hfirst.append _).ne hother (hdiffer opening hopening _ (by decide))

namespace Issue.OpensOtherwise

theorem of_fromOtherCallRule {issue : Issue} (h : issue.FromOtherCallRule) :
    issue.OpensOtherwise := by
  cases h with
  | missing => exact ⟨"function ", by decide, by decide +kernel⟩
  | convention called effective =>
    refine ⟨"function ", by decide, List.IsPrefix.trans ?_
      (beginsWith_nonDefaultConvention called effective)⟩
    decide
  | unrecognized spelling =>
    exact ⟨"function ", by decide, BeginsWith.append (by decide) _⟩
  | inAlloca => exact ⟨"function ", by decide, by decide +kernel⟩
  | extendedInfo => exact ⟨"function ", by decide, by decide +kernel⟩
  | result passed =>
    exact ⟨"return value ", by decide, BeginsWith.append (BeginsWith.append (by decide) _) _⟩

theorem of_mem_accessibilityIssues {ctx : Context} {d : Decl} {issue : Issue}
    (h : issue ∈ ctx.accessibilityIssues d) : issue.OpensOtherwise := by
  have hticked (accessibility : Accessibility) (rest : String) :
      BeginsWith "`" (ticked accessibility.text ++ rest) :=
    (((BeginsWith.refl _).append _).append _).append _
  rw [Context.accessibilityIssues] at h
  split at h
  · obtain rfl := List.mem_singleton.mp h
    exact ⟨"`", by decide, hticked _ _⟩
  · obtain rfl := List.mem_singleton.mp (List.mem_ite_nil_right.mp h).2
    exact ⟨"`", by decide, hticked _ _⟩

theorem virtualSetLastError : OpensOtherwise .virtualSetLastError :=
  ⟨"virtual methods ", by decide, by decide +kernel⟩

theorem of_mem_danglingIssues {N : Library} {d : Decl} {issue : Issue}
    (h : issue ∈ N.danglingIssues d) : issue.OpensOtherwise := by
  obtain ⟨name, _, rfl⟩ := List.mem_map.mp h
  exact ⟨"type reference ", by decide, ((BeginsWith.refl _).append _).append _⟩

end Issue.OpensOtherwise

/-! ## Findings about a function -/

namespace Arrangement

/-- The findings about an arrangement that are not about single arguments. -/
def generalIssues (a : Arrangement) (default : CallingConvention) : List Issue :=
  a.conventionIssues default ++ a.declaredIssues
    ++ (if a.usesInAlloca then [.inAllocaArguments] else [])
    ++ (if a.hasExtendedInfo then [.extendedInfo] else [])
    ++ (if a.result.isExpanded then [.expandedResult a.result] else [])

theorem issues_eq_append (a : Arrangement) (default : CallingConvention) (nameOf : Nat → String) :
    a.issues default nameOf = a.generalIssues default ++ a.argumentIssues nameOf := rfl

/-- The arguments that are split into parts, each with its index, in their order. -/
def splitArguments (a : Arrangement) : List (ArgumentClass × Nat) :=
  a.arguments.zipIdx.filter fun entry => entry.1 = .expand ∨ entry.1 = .coerceAndExpand

theorem fromOtherCallRule_of_mem_generalIssues {a : Arrangement} {default : CallingConvention}
    {issue : Issue} (h : issue ∈ a.generalIssues default) : issue.FromOtherCallRule := by
  simp only [generalIssues, List.mem_append] at h
  rcases h with (((hconvention | hdeclared) | hinAlloca) | hextended) | hresult
  · rw [conventionIssues] at hconvention
    obtain rfl := List.mem_singleton.mp (List.mem_ite_nil_left.mp hconvention).2
    exact .convention _ _
  · rw [declaredIssues] at hdeclared
    split at hdeclared
    · exact absurd hdeclared List.not_mem_nil
    · obtain rfl := List.mem_singleton.mp hdeclared
      exact .unrecognized _
  · obtain rfl := List.mem_singleton.mp (List.mem_ite_nil_right.mp hinAlloca).2
    exact .inAlloca
  · obtain rfl := List.mem_singleton.mp (List.mem_ite_nil_right.mp hextended).2
    exact .extendedInfo
  · obtain rfl := List.mem_singleton.mp (List.mem_ite_nil_right.mp hresult).2
    exact .result _

theorem argumentIssues_eq (a : Arrangement) (nameOf : Nat → String) :
    a.argumentIssues nameOf
      = a.splitArguments.map fun entry => .expandedArgument (nameOf entry.2) entry.1 := by
  rw [argumentIssues, splitArguments, ← List.filterMap_eq_map, List.filterMap_filter]
  refine List.filterMap_congr fun entry _ => ?_
  obtain ⟨passed, index⟩ := entry
  cases passed <;> rfl

theorem pairwise_splitArguments (a : Arrangement) :
    a.splitArguments.Pairwise fun entry other => entry.2 ≠ other.2 := by
  have hindices : (a.arguments.zipIdx.map Prod.snd).Nodup := by
    rw [List.zipIdx_map_snd]
    exact List.nodup_range' 1
  exact (List.pairwise_map.mp hindices).filter _

end Arrangement

/-- Findings with different wordings, none of which is attached yet, are all attached. -/
theorem Diagnostics.attachAll_eq_append {ds : Diagnostics} {issues : List Issue}
    (hplain : ∀ issue ∈ issues, issue.isFallback = false)
    (hnew : ∀ issue ∈ issues, issue.diagnostic ∉ ds)
    (hdistinct : (issues.map Issue.diagnostic).Nodup) :
    Issue.attachAll ds issues = ds ++ issues.map Issue.diagnostic := by
  induction issues generalizing ds with
  | nil => exact (List.append_nil ds).symm
  | cons issue issues ih =>
    obtain ⟨hissue, hplain⟩ := List.forall_mem_cons.mp hplain
    obtain ⟨hhere, hnew⟩ := List.forall_mem_cons.mp hnew
    rw [List.map_cons, List.nodup_cons] at hdistinct
    have hattach : issue.attach ds = ds ++ [issue.diagnostic] :=
      Issue.attach_of_not_records fun hrecords => by
        rw [Records, hissue] at hrecords
        exact hhere hrecords
    show Issue.attachAll (issue.attach ds) issues = _
    rw [hattach, ih hplain ?_ hdistinct.2, List.append_assoc]
    · rfl
    · intro other hother hmem
      rcases List.mem_append.mp hmem with hold | hlast
      · exact hnew other hother hold
      · exact hdistinct.1 (List.mem_singleton.mp hlast ▸ List.mem_map_of_mem hother)

/-! ## Warnings about a function -/

/-- Some diagnostics warn of the split arguments of a function: there is one for each of them, in
their order, and no two of them read the same. -/
structure Callable.WarnsOfArguments (f : Callable Decl) (functionName : String) (a : Arrangement)
    (warnings : Diagnostics) : Prop where
  each : List.Forall₂ (fun entry warning => ∃ words, f.NamesArgument functionName entry.2 words ∧
    warning = (Issue.expandedArgument words entry.1).diagnostic) a.splitArguments warnings
  distinct : (warnings.map Diagnostic.message).Nodup

theorem Callable.WarnsOfArguments.isArgumentText {f : Callable Decl} {functionName : String}
    {a : Arrangement} {warnings : Diagnostics} (h : f.WarnsOfArguments functionName a warnings)
    {warning : Diagnostic} (hwarning : warning ∈ warnings) : IsArgumentText warning.message := by
  obtain ⟨i, hi, rfl⟩ := List.mem_iff_getElem.mp hwarning
  obtain ⟨words, hwords, hsame⟩ := h.each.get (h.each.length_eq ▸ hi) hi
  exact ⟨f, functionName, _, words, _, hwords, congrArg Diagnostic.message hsame⟩

/-- The findings about the arguments warn of them. -/
theorem Arrangement.warnsOfArguments (a : Arrangement) (f : Callable Decl)
    (functionName : String) :
    f.WarnsOfArguments functionName a
      ((a.argumentIssues (f.argumentName functionName)).map Issue.diagnostic) where
  each := by
    rw [argumentIssues_eq, List.map_map, List.forall₂_map_right_iff, List.forall₂_same]
    exact fun entry _ => ⟨_, Callable.namesArgument_iff.mpr rfl, rfl⟩
  distinct := by
    rw [argumentIssues_eq, List.map_map, List.map_map]
    refine List.pairwise_map.mpr (a.pairwise_splitArguments.imp fun hindex heq => ?_)
    exact hindex (Callable.NamesArgument.index_eq (Callable.namesArgument_iff.mpr rfl)
      (Callable.namesArgument_iff.mpr rfl) heq)

namespace Context

variable {ctx : Context} {d : Decl} {f : Callable Decl} {a : Arrangement}

/-- Where members may be, the findings about the arguments of a function come after findings that
read in other ways. -/
theorem exists_issues_eq_append (default : CallingConvention) (hhosts : ctx.hostsMembers = true)
    (hkind : d.kind = .function f) (ha : f.arrangement = some a) :
    ∃ earlier, ctx.issues default d = earlier ++ a.argumentIssues (f.argumentName d.name) ∧
      ∀ issue ∈ earlier, issue.OpensOtherwise := by
  refine ⟨ctx.accessibilityIssues d ++ ((if losesErrorCode d f then [.virtualSetLastError] else [])
    ++ a.generalIssues default), ?_, fun issue hissue => ?_⟩
  · rw [issues, kindIssues, hkind]
    dsimp only
    rw [functionIssues, if_pos hhosts, ha]
    simp only [Arrangement.issues_eq_append, List.nil_append, List.append_assoc]
  · rw [List.mem_append, List.mem_append] at hissue
    rcases hissue with hlevel | herrorCode | hgeneral
    · exact .of_mem_accessibilityIssues hlevel
    · obtain rfl := List.mem_singleton.mp (List.mem_ite_nil_right.mp herrorCode).2
      exact .virtualSetLastError
    · exact .of_fromOtherCallRule (Arrangement.fromOtherCallRule_of_mem_generalIssues hgeneral)

/-- **A function settles with a warning of each split argument**, and nothing else that is attached
reads like one. -/
theorem exists_diagnostics_settle (default : CallingConvention) (N : Library)
    (hhosts : ctx.hostsMembers = true) (hkind : d.kind = .function f)
    (ha : f.arrangement = some a) (hnone : d.diagnostics = []) :
    ∃ before warnings after,
      (ctx.settle default N d).diagnostics = before ++ warnings ++ after ∧
      f.WarnsOfArguments d.name a warnings ∧
      ∀ x ∈ before ++ after, ¬ IsArgumentText x.message := by
  obtain ⟨earlier, hissues, hearlier⟩ := ctx.exists_issues_eq_append default hhosts hkind ha
  have hwarns := a.warnsOfArguments f d.name
  have hbefore : ∀ x ∈ Issue.attachAll [] earlier, ¬ IsArgumentText x.message := by
    intro x hx htext
    obtain ⟨issue, hissue, rfl⟩ :=
      (Diagnostics.mem_attachAll hx).resolve_left List.not_mem_nil
    exact htext.message_ne (hearlier issue hissue) rfl
  have hattached : Issue.attachAll (Issue.attachAll [] earlier)
      (a.argumentIssues (f.argumentName d.name))
        = Issue.attachAll [] earlier
          ++ (a.argumentIssues (f.argumentName d.name)).map Issue.diagnostic := by
    refine Diagnostics.attachAll_eq_append (fun issue hissue => ?_) (fun issue hissue hmem => ?_)
      (.of_map _ hwarns.distinct)
    · rw [Arrangement.argumentIssues_eq] at hissue
      obtain ⟨entry, _, rfl⟩ := List.mem_map.mp hissue
      rfl
    · exact hbefore _ hmem (hwarns.isArgumentText (List.mem_map_of_mem hissue))
  obtain ⟨after, hafter, hfound⟩ := Diagnostics.exists_attachAll_eq_append
    (Issue.attachAll [] earlier ++ (a.argumentIssues (f.argumentName d.name)).map Issue.diagnostic)
    (N.danglingIssues d)
  refine ⟨Issue.attachAll [] earlier, _, after, ?_, hwarns, fun x hx => ?_⟩
  · rw [diagnostics_settle, hnone, Issue.attachAll_append, hissues,
      Issue.attachAll_append, hattached, hafter]
  · rcases List.mem_append.mp hx with hx | hx
    · exact hbefore x hx
    · obtain ⟨issue, hissue, rfl⟩ := hfound x hx
      exact fun htext => htext.message_ne (.of_mem_danglingIssues hissue) rfl

end Context

/-! ## Whole runs -/

section

variable {d : Decl} {f : Callable Decl}

theorem Decl.kind_withSettled_of_function (h : d.kind = .function f) (children : List Decl) :
    (d.withSettled children).kind = .function { f with parameters := children } := by
  rw [withSettled, h]
  rfl

theorem Context.settle_of_function (ctx : Context) (default : CallingConvention) (N : Library)
    (h : d.kind = .function f) (children : List Decl) :
    (ctx.settle default N (d.withSettled children)).name = d.name ∧
      (ctx.settle default N (d.withSettled children)).kind
        = .function { f with parameters := children } := by
  constructor
  · show ctx.repairedName _ = _
    have hother : ¬ d.kind.form.IsField := by
      rw [h]
      exact id
    rw [(ctx.repairedLabels_withSettled d children).1, repairedName, newName?_of_not_isField hother]
    rfl
  · exact congrArg ctx.repairedKind (Decl.kind_withSettled_of_function h children)

/-- What the parameters of a function are called after verification. -/
theorem SettledAll.forall₂_name {default : CallingConvention} {L N : Library} {above ds : List Decl}
    {parts : List SettledPart} (h : SettledAll default L N (d :: above) ds parts) :
    List.Forall₂ (fun p p' => ¬ p.kind.form.IsField → p'.name = p.name) ds
      (parts.map SettledPart.result) := by
  rw [← h.originals, List.forall₂_map_left_iff, List.forall₂_map_right_iff, List.forall₂_same]
  intro part hpart hother
  have hname : part.result.name = part.settled.name := by
    unfold SettledPart.result
    split <;> rfl
  rw [hname]
  exact (h.settles part hpart).calledBelow.kept fun hclash => hother hclash.isField

end

/-- **Every argument that is split gets its own warning.**  A function with an arrangement that may
be where it is, and that had no diagnostics, is the same function after verification, with its
parameters under their names.  Among its diagnostics is one warning for each argument that is
split, in the order of the arguments.  It names the receiver, or the position of the parameter.  No
two of these warnings read the same, and neither the other diagnostics of the function nor the
findings of any other rule for calls read like one of them. -/
theorem verify_warns_of_each_argument (default : CallingConvention) (L : Library)
    {path : List Nat} {v : Visit} {f : Callable Decl} {a : Arrangement}
    (hv : Library.visitBelow? [] L.roots path = some v)
    (hplace : v.parentForm? = some .record ∨ v.parentForm? = some (.container .looseDeclarations))
    (hkind : v.decl.kind = .function f) (ha : f.arrangement = some a)
    (hnone : v.decl.diagnostics = []) :
    ∃ d' parameters before warnings after,
      L.outcomeAt? (verify default L) path = some d' ∧
      d'.name = v.decl.name ∧ d'.kind = .function { f with parameters } ∧
      List.Forall₂ (fun p p' => ¬ p.kind.form.IsField → p'.name = p.name) f.parameters parameters ∧
      d'.diagnostics = before ++ warnings ++ after ∧
      Callable.WarnsOfArguments { f with parameters } d'.name a warnings ∧
      (∀ x ∈ before ++ after, ¬ IsArgumentText x.message) ∧
      ∀ x ∈ warnings, ∀ issue : Issue, issue.FromOtherCallRule → x.message ≠ issue.message := by
  obtain ⟨d', hd', hsettles⟩ := exists_outcome default L hv
  obtain ⟨parts, hparts, rfl⟩ := hsettles.exists_parts
  have hparameters := hparts.forall₂_name
  rw [Decl.children, hkind] at hparameters
  have hhosts : (Context.mk L v.above).hostsMembers = true := Context.hostsMembers_iff.mpr hplace
  obtain ⟨before, warnings, after, hdiagnostics, hwarns, hothers⟩ :=
    Context.exists_diagnostics_settle default (verify default L) hhosts
      (Decl.kind_withSettled_of_function hkind (parts.map SettledPart.result)) ha hnone
  obtain ⟨hname, hsettled⟩ := Context.settle_of_function ⟨L, v.above⟩ default (verify default L)
    hkind (parts.map SettledPart.result)
  refine ⟨_, parts.map SettledPart.result, before, warnings, after, hd', hname, hsettled,
    hparameters, hdiagnostics, ?_, hothers, fun x hx issue hissue => ?_⟩
  · rw [hname]
    exact hwarns
  · exact (hwarns.isArgumentText hx).message_ne (.of_fromOtherCallRule hissue)

namespace Sample

/-- A method with more arguments than parameters, most of which are split. -/
def fill : Callable Decl where
  mangledName := "Fill"
  result := .void
  isVirtual := false
  isInstance := true
  arrangement := some { Arrangement.direct 0 with
    arguments := [.expand, .coerceAndExpand, .expand, .direct, .expand] }
  parameters := [
    .ofKind 1 "size" 0 (.parameter (.scalar .i32) none),
    .ofKind 2 "" 0 (.parameter (.scalar .i32) none)]

def box : Library :=
  .ofRoots ["include/box.h"] [
    .ofKind 4 "Box" 0 (.record (.ofMembers [.ofKind 3 "Fill" 0 (.function fill)]))] 5

end Sample

/-- The receiver, a named parameter, one without a name, and an argument without a parameter. -/
theorem verify_warns_of_each_argument_box :
    ∃ v, Library.visitBelow? [] Sample.box.roots [0, 0] = some v ∧
      v.parentForm? = some .record ∧ v.decl.kind = .function Sample.fill ∧
      v.decl.diagnostics = [] ∧
      (∃ d' before warnings after,
        Sample.box.outcomeAt? (verify .c Sample.box) [0, 0] = some d' ∧
        d'.diagnostics = before ++ warnings ++ after ∧ warnings.length = 4 ∧
        (warnings.map Diagnostic.message).Nodup) ∧
      (Sample.box.outcomeAt? (verify .c Sample.box) [0, 0]).map
        (fun d' => d'.diagnostics.map Diagnostic.message) = some ([
          "this pointer parameter is passed via `Expand`",
          "parameter #0 `size` is passed via `CoerceAndExpand`",
          "parameter #1 of `Fill` is passed via `Expand`",
          "parameter #3 of `Fill` is passed via `Expand`"].map
            (· ++ ", which may not be handled correctly")) := by
  have hv : Library.visitBelow? [] Sample.box.roots [0, 0]
      = some ⟨Sample.box.roots, .ofKind 3 "Fill" 0 (.function Sample.fill)⟩ := rfl
  obtain ⟨d', parameters, before, warnings, after, hd', _, _, _, hdiagnostics, hwarns, _⟩ :=
    verify_warns_of_each_argument .c Sample.box hv (.inl rfl) rfl rfl rfl
  exact ⟨_, hv, rfl, rfl, rfl, ⟨d', before, warnings, after, hd', hdiagnostics,
    hwarns.each.length_eq.symm, hwarns.distinct⟩, by decide +kernel⟩

end NativeApi

import ClockFace.Environment.Load
import ClockFace.Proofs.AttemptRun

/-! # What a file takes from the process environment

A reference stands for what an earlier assignment of the file gave its name, and is asked
of the process environment if there is none. `Binding.reaches` follows this through the
file: a name reaches the process environment as long as it is not assigned, and after that
if a reference in its value does.

A text is first cut into its parts (`Reference.parts`), which do not depend on what the
references stand for; replacing the references is then a `flatMap` (`expand_eq_flatMap`).

## Key results

- `Reference.expand_congr`: a text depends on its references alone
- `Binding.last?_expandAfter_congr`: what does not reach the process is the same under all
- `Binding.length_le_of_reaches`: what reaches it grows with what it finds there
- `Environment.ofFile_congr`, `Environment.exists_ofFile_ne`: which variables of a file
  depend on the process
- `Environment.load_given_of_not_exposed`: when a configuration does not
-/

namespace ClockFace

/-! ## Texts in parts -/

namespace Reference

/-- A part of a text: a character that stands for itself, or a reference. -/
inductive Part where
  | char (c : Char)
  | reference (r : Reference)

/-- What a part stands for. -/
def Part.text (meaning : Reference → List Char) : Part → List Char
  | .char c => [c]
  | .reference r => meaning r

/-- The parts of a text, in order. -/
def parts (s : List Char) : List Part :=
  match s with
  | [] => []
  | c :: rest =>
    if c = '$' && rest.head? = some openBrace then
      match _h : read? rest.tail with
      | some (r, after) => .reference r :: parts after
      | none => .char c :: parts rest
    else .char c :: parts rest
termination_by s.length
decreasing_by
  all_goals simp_wf
  have := length_of_read? _h
  have : rest.tail.length ≤ rest.length := by simp
  omega

/-- Replacing the references replaces the parts, one after the other. -/
theorem expand_eq_flatMap (meaning : Reference → List Char) (s : List Char) :
    expand meaning s = (parts s).flatMap (Part.text meaning) := by
  fun_induction parts s with
  | case1 => rw [expand, List.flatMap_nil]
  | case2 c rest hopen r after hread ih =>
    rw [expand, if_pos hopen, List.flatMap_cons, ← ih]
    split
    · next r' after' hread' =>
      obtain ⟨rfl, rfl⟩ := Prod.mk.inj (Option.some.inj (hread.symm.trans hread'))
      rfl
    · next hread' =>
      rw [hread] at hread'
      cases hread'
  | case3 c rest hopen hread ih =>
    rw [expand, if_pos hopen, List.flatMap_cons, ← ih]
    split
    · next r' after' hread' =>
      rw [hread] at hread'
      cases hread'
    · rfl
  | case4 c rest hopen ih =>
    rw [expand, if_neg hopen, ih]
    rfl

/-- A text depends on what its own references stand for, and on nothing else. -/
theorem expand_congr {f g : Reference → List Char} {s : List Char}
    (h : ∀ r, .reference r ∈ parts s → f r = g r) : expand f s = expand g s := by
  have hparts : ∀ part ∈ parts s, part.text f = part.text g := by
    intro part hpart
    cases part with
    | char c => rfl
    | reference r => exact h r hpart
  rw [expand_eq_flatMap, expand_eq_flatMap, List.flatMap_def, List.flatMap_def,
    List.map_congr_left hparts]

/-- A text is at least as long as what each of its references stands for. -/
theorem length_le_of_mem_parts {s : List Char} {r : Reference} (h : .reference r ∈ parts s)
    (f : Reference → List Char) : (f r).length ≤ (expand f s).length := by
  obtain ⟨before, rest, hparts⟩ := List.append_of_mem h
  rw [expand_eq_flatMap, hparts, List.flatMap_append, List.flatMap_cons, List.length_append,
    List.length_append, Part.text]
  omega

end Reference

/-! ## Assignments under a process environment -/

namespace Binding

/-- The references in the value of an assignment. -/
def references (b : Binding) : List Reference :=
  match b.value with
  | none => []
  | some v => (Reference.parts v).filterMap fun
    | .char _ => none
    | .reference r => some r

theorem mem_references {b : Binding} {v : List Char} (hv : b.value = some v) {r : Reference} :
    r ∈ b.references ↔ .reference r ∈ Reference.parts v := by
  rw [references, hv]
  simp only [List.mem_filterMap]
  constructor
  · rintro ⟨part, hpart, hr⟩
    cases part with
    | char c => cases hr
    | reference r' =>
      obtain rfl := Option.some.inj hr
      exact hpart
  · intro h
    exact ⟨_, h, rfl⟩

/-- The last assignment to a name. -/
def last? (bindings : List Binding) (name : List Char) : Option Binding :=
  bindings.reverse.find? (·.name == name)

theorem lookUp?_eq (bindings : List Binding) (name : List Char) :
    lookUp? bindings name = (last? bindings name).map fun b => b.value.getD [] :=
  rfl

theorem last?_append_singleton (bindings : List Binding) (b : Binding) (name : List Char) :
    last? (bindings ++ [b]) name = if b.name = name then some b else last? bindings name := by
  rw [last?, List.reverse_append, List.reverse_singleton, List.singleton_append, List.find?_cons]
  by_cases hname : b.name = name
  · rw [if_pos hname, beq_iff_eq.2 hname]
  · rw [if_neg hname, beq_eq_false_iff_ne.2 hname]
    rfl

theorem last?_eq_none_iff {bindings : List Binding} {name : List Char} :
    last? bindings name = none ↔ name ∉ bindings.map Binding.name := by
  simp [last?, List.find?_eq_none]

/-- Replacing the references keeps the names. -/
theorem map_name_expandAfter (process : List Char → Option (List Char))
    (earlier bindings : List Binding) :
    (expandAfter process earlier bindings).map name = earlier.map name ++ bindings.map name := by
  induction bindings generalizing earlier with
  | nil => simp [expandAfter]
  | cons b rest ih => simp [expandAfter, ih]

/-- Replacing the references assigns no name that was not assigned. -/
theorem last?_expandAll_eq_none_iff (process : List Char → Option (List Char))
    {bindings : List Binding} {name : List Char} :
    last? (expandAll process bindings) name = none ↔ last? bindings name = none := by
  rw [last?_eq_none_iff, last?_eq_none_iff, expandAll, map_name_expandAfter]
  rfl

/-- What a reference stands for hangs on the process environment: so it does if its name is
not assigned yet, and after that if a reference in the last value does. -/
def reachesAfter (before : List Char → Bool) : List Binding → List Char → Bool
  | [] => before
  | b :: rest => reachesAfter
      (fun name => if name = b.name then b.references.any (before ·.name) else before name) rest

/-- A reference to the name, after the assignments, hangs on the process environment. -/
def reaches (bindings : List Binding) : List Char → Bool :=
  reachesAfter (fun _ => true) bindings

/-- The value that the assignments give a name hangs on the process environment. -/
def exposed (bindings : List Binding) (name : List Char) : Bool :=
  (last? bindings name).isSome && reaches bindings name

section Process

variable {p q : List Char → Option (List Char)} {earlier other bindings : List Binding}
  {before : List Char → Bool}

/-- A reference to a name that is assigned stands for the last value, under any process
environment. -/
theorem meaning_of_last?_eq_some {r : Reference} {b : Binding} (h : last? earlier r.name = some b)
    (p : List Char → Option (List Char)) : meaning earlier p r = b.value.getD [] := by
  rw [meaning, lookUp?_eq, h]
  rfl

/-- A reference to a name that is not assigned stands for what the process environment has. -/
theorem meaning_of_last?_eq_none {r : Reference} {text : List Char}
    (h : last? earlier r.name = none) (hp : p r.name = some text) :
    meaning earlier p r = text := by
  rw [meaning, lookUp?_eq, h, hp]
  rfl

/-- What does not reach the process environment is assigned the same under any two. -/
theorem last?_expandAfter_congr
    (h : ∀ name, before name = false →
      last? earlier name = last? other name ∧ (last? other name).isSome)
    {name : List Char} (hname : reachesAfter before bindings name = false) :
    last? (expandAfter p earlier bindings) name = last? (expandAfter q other bindings) name := by
  induction bindings generalizing earlier other before with
  | nil => exact (h name hname).1
  | cons b rest ih =>
    rw [expandAfter, expandAfter]
    refine ih (fun name' hname' => ?_) hname
    rw [last?_append_singleton, last?_append_singleton]
    by_cases hb : b.name = name'
    · -- The references in the new value stand for values that are known to agree
      rw [if_pos hb, if_pos hb]
      rw [if_pos hb.symm] at hname'
      have hvalue : b.value.map (Reference.expand (meaning earlier p)) =
          b.value.map (Reference.expand (meaning other q)) := by
        cases hv : b.value with
        | none => rfl
        | some v =>
          refine congrArg some (Reference.expand_congr fun r hr => ?_)
          have hr' := List.any_eq_false.1 hname' r ((mem_references hv).2 hr)
          obtain ⟨hsame, hsome⟩ := h r.name (Bool.not_eq_true _ ▸ hr')
          obtain ⟨last, hlast⟩ := Option.isSome_iff_exists.1 hsome
          rw [meaning_of_last?_eq_some hlast, meaning_of_last?_eq_some (hsame.trans hlast)]
      rw [hvalue]
      exact ⟨rfl, rfl⟩
    · rw [if_neg hb, if_neg hb]
      rw [if_neg (Ne.symm hb)] at hname'
      exact h name' hname'

/-- Where the process environment has one long text under every name, all that reaches it is
at least as long. -/
theorem length_le_of_reaches {long : List Char}
    (hq : ∀ b ∈ bindings, ∀ r ∈ b.references, q r.name = some long)
    (h : ∀ name last, before name = true → last? earlier name = some last →
      long.length ≤ (last.value.getD []).length)
    {name : List Char} (hname : reachesAfter before bindings name = true) {last : Binding}
    (hlast : last? (expandAfter q earlier bindings) name = some last) :
    long.length ≤ (last.value.getD []).length := by
  induction bindings generalizing earlier before with
  | nil => exact h name last hname hlast
  | cons b rest ih =>
    rw [expandAfter] at hlast
    refine ih (fun b' hb' => hq b' (List.mem_cons_of_mem _ hb')) (fun name' last' hname' hlast' => ?_)
      hname hlast
    rw [last?_append_singleton] at hlast'
    by_cases hb : b.name = name'
    · -- One of the references in the new value brings the long text along
      rw [if_pos hb] at hlast'
      rw [if_pos hb.symm] at hname'
      obtain rfl := Option.some.inj hlast'
      obtain ⟨r, hr, hbefore⟩ := List.any_eq_true.1 hname'
      cases hv : b.value with
      | none =>
        rw [references, hv] at hr
        cases hr
      | some v =>
        have hmeaning : long.length ≤ (meaning earlier q r).length := by
          cases hearlier : last? earlier r.name with
          | none =>
            have hlong := meaning_of_last?_eq_none hearlier (hq b List.mem_cons_self r hr)
            exact Nat.le_of_eq (congrArg List.length hlong.symm)
          | some kept =>
            rw [meaning_of_last?_eq_some hearlier]
            exact h r.name kept hbefore hearlier
        exact Nat.le_trans hmeaning (Reference.length_le_of_mem_parts ((mem_references hv).1 hr) _)
    · rw [if_neg hb] at hlast'
      rw [if_neg (Ne.symm hb)] at hname'
      exact h name' last' hname' hlast'

end Process

end Binding

/-! ## Variables of a file -/

namespace Environment

/-- The texts of an environment, as references look them up. -/
def Variables.look (vs : Variables) (name : List Char) : Option (List Char) :=
  (vs.find? (String.ofList name)).map String.toList

/-- An environment that has one text under some names. -/
theorem Variables.find?_map_const {names : List String} {name : String} (h : name ∈ names)
    (text : String) : Variables.find? (names.map (·, text)) name = some text := by
  rw [find?, ← List.map_reverse]
  have hmem := List.mem_reverse.2 h
  generalize names.reverse = others at hmem
  induction others with
  | nil => cases hmem
  | cons first rest ih =>
    rw [List.map_cons, List.lookup_cons]
    by_cases hfirst : name = first
    · rw [beq_iff_eq.2 hfirst]
    · rw [beq_eq_false_iff_ne.2 hfirst]
      exact ih ((List.mem_cons.1 hmem).resolve_left hfirst)

theorem ofFile_eq (process : Variables) (file name : String) :
    ofFile process file name = ((Binding.last? (Binding.expandAll process.look
      (Binding.ofFile file.toList)) name.toList).bind Binding.value).map String.ofList :=
  rfl

/-- A variable whose value is not exposed is the same under any two process environments. -/
theorem ofFile_congr {file name : String}
    (h : Binding.exposed (Binding.ofFile file.toList) name.toList = false) (p q : Variables) :
    ofFile p file name = ofFile q file name := by
  let bindings := Binding.ofFile file.toList
  have hlast : Binding.last? (Binding.expandAll p.look bindings) name.toList =
      Binding.last? (Binding.expandAll q.look bindings) name.toList := by
    rw [Binding.exposed, Bool.and_eq_false_iff, Option.isSome_eq_false_iff,
      Option.isNone_iff_eq_none] at h
    obtain hnone | hreaches := h
    · -- A name that the file does not assign has no text under any of them
      rw [(Binding.last?_expandAll_eq_none_iff p.look).2 hnone,
        (Binding.last?_expandAll_eq_none_iff q.look).2 hnone]
    · exact Binding.last?_expandAfter_congr (fun _ h => by cases h) hreaches
  rw [ofFile_eq, ofFile_eq, hlast]

/-- A variable whose value is exposed has another text than under the empty process
environment where that has long texts. -/
theorem exists_ofFile_ne {file name : String}
    (h : Binding.exposed (Binding.ofFile file.toList) name.toList = true) :
    ∃ q : Variables, ofFile [] file name ≠ ofFile q file name := by
  let bindings := Binding.ofFile file.toList
  obtain ⟨hassigned, hreaches⟩ := Bool.and_eq_true_iff.1 h
  let names := (bindings.flatMap Binding.references).map fun r => String.ofList r.name
  let value (p : Variables) : Option (List Char) :=
    (Binding.last? (Binding.expandAll p.look bindings) name.toList).bind Binding.value
  let long : List Char := List.replicate (((value []).getD []).length + 1) 'x'
  let q : Variables := names.map (·, String.ofList long)
  refine ⟨q, fun hsame => ?_⟩
  -- Under this environment the value is longer than under the empty one
  have hlook : ∀ b ∈ bindings, ∀ r ∈ b.references, q.look r.name = some long := by
    intro b hb r hr
    have hname : String.ofList r.name ∈ names :=
      List.mem_map_of_mem (List.mem_flatMap_of_mem hb hr)
    rw [Variables.look, Variables.find?_map_const hname]
    exact congrArg some String.toList_ofList
  have hnone : Binding.last? (Binding.expandAll q.look bindings) name.toList ≠ none := fun hnone =>
    Option.isSome_iff_ne_none.1 hassigned ((Binding.last?_expandAll_eq_none_iff q.look).1 hnone)
  obtain ⟨last, hlast⟩ := Option.ne_none_iff_exists'.1 hnone
  have hlong : long.length ≤ (last.value.getD []).length :=
    Binding.length_le_of_reaches hlook (fun _ _ _ h => by cases h) hreaches hlast
  have hvalue : value [] = last.value := by
    have htexts : (value []).map String.ofList = last.value.map String.ofList := by
      rw [ofFile_eq [], ofFile_eq q, hlast] at hsame
      exact hsame
    exact Option.map_injective (fun _ _ => String.ofList_injective) htexts
  rw [← hvalue, List.length_replicate] at hlong
  omega

/-- The names of the variables for the tuning keys. -/
def tuningNames : List String :=
  ["STATUSCLOCK_CLOCK_SHOW", "STATUSCLOCK_CLOCK_SECONDS", "STATUSCLOCK_CLOCK_AM_PM_STYLE",
    "STATUSCLOCK_CLOCK_STYLE", "STATUSCLOCK_CLOCK_DATE_SHOW", "STATUSCLOCK_CLOCK_DATE_STYLE",
    "STATUSCLOCK_CLOCK_DATE_POSITION", "STATUSCLOCK_CLOCK_DATE_FORMAT"]

/-- The names of the variables of a display. -/
def variableNames : List String :=
  tuningNames ++ [nameStart ++ "HOUR24", nameStart ++ "LOCALE", nameStart ++ "TIMEZONE"]

theorem map_variableName_keys : Tuning.keys.map variableName = tuningNames := by decide +kernel

/-- The configuration that variables describe, with their names written out. -/
theorem config_eq (find : String → Option String) :
    config find = Tuning.config
      (Tuning.keys.zip (tuningNames.map fun name => ((find name).map Value.text).getD .null))
      { hour24 := .bool (asksHour24 ((find (nameStart ++ "HOUR24")).getD "0"))
        locale := .text ((nonEmpty? (find (nameStart ++ "LOCALE"))).getD "en_US")
        timezone :=
          ((nonEmpty? (find (nameStart ++ "TIMEZONE"))).map Value.text).getD .null } := by
  rw [← map_variableName_keys, List.map_map, config, List.map_prod_left_eq_zip]
  rfl

/-- A configuration depends on the variables of a display alone. -/
theorem config_congr {f g : String → Option String} (h : ∀ name ∈ variableNames, f name = g name) :
    config f = config g := by
  have hkeys : ∀ name ∈ tuningNames, f name = g name := fun name hname =>
    h name (List.mem_append_left _ hname)
  have hvalues : tuningNames.map (fun name => ((f name).map Value.text).getD .null) =
      tuningNames.map fun name => ((g name).map Value.text).getD .null :=
    List.map_congr_left fun name hname => by rw [hkeys name hname]
  have hhour : f (nameStart ++ "HOUR24") = g (nameStart ++ "HOUR24") :=
    h _ (List.mem_append_right _ (by simp))
  have hlocale : f (nameStart ++ "LOCALE") = g (nameStart ++ "LOCALE") :=
    h _ (List.mem_append_right _ (by simp))
  have hzone : f (nameStart ++ "TIMEZONE") = g (nameStart ++ "TIMEZONE") :=
    h _ (List.mem_append_right _ (by simp))
  rw [config_eq, config_eq, hvalues, hhour, hlocale, hzone]

/-- With a file, each variable comes from the environment, or else from the file. -/
theorem load_file (file : String) (given : Option Variables) (process : Variables) :
    load (some file) given process =
      config fun name => (given.getD process).find? name <|> ofFile process file name :=
  rfl

/-- Where an environment is given, the process environment shows in a configuration only
through the variables of the file that are exposed to it, and of these only through those
that the given environment does not have. The exposed variables are exactly the ones that
it can change. -/
theorem load_given_of_not_exposed (file : String) (given : Variables) :
    ((∀ name ∈ variableNames, given.find? name = none →
        Binding.exposed (Binding.ofFile file.toList) name.toList = false) →
      ∀ p q : Variables, load (some file) (some given) p = load (some file) (some given) q) ∧
    ∀ name, Binding.exposed (Binding.ofFile file.toList) name.toList = false ↔
      ∀ p q : Variables, ofFile p file name = ofFile q file name := by
  refine ⟨fun h p q => ?_, fun name => ⟨ofFile_congr, fun hsame => ?_⟩⟩
  · rw [load_file, load_file]
    refine config_congr fun name hname => ?_
    rw [Option.getD_some, Option.getD_some]
    cases hgiven : given.find? name with
    | some text => rfl
    | none => exact ofFile_congr (h name hname hgiven) p q
  · cases hexposed : Binding.exposed (Binding.ofFile file.toList) name.toList with
    | false => rfl
    | true =>
      obtain ⟨q, hq⟩ := exists_ofFile_ne hexposed
      exact absurd (hsame [] q) hq

/-- The locale refers to an earlier line, which the process environment cannot reach; the
zone refers to the process environment, but the given one has it. -/
theorem load_given_of_not_exposed_locale :
    let file := "TAG=de_DE\nSTATUSCLOCK_LOCALE=$\x7bTAG\x7d\nSTATUSCLOCK_TIMEZONE=$\x7bTZ\x7d\n"
    let given : Variables := [("STATUSCLOCK_TIMEZONE", "UTC")]
    (∀ name ∈ variableNames, given.find? name = none →
        Binding.exposed (Binding.ofFile file.toList) name.toList = false) ∧
      Binding.exposed (Binding.ofFile file.toList) "STATUSCLOCK_TIMEZONE".toList = true ∧
      load (some file) (some given) [] = .ok { locale := "de_DE", timezone := some "UTC" } ∧
      load (some file) (some given) [("TAG", "fr_CA"), ("TZ", "Asia/Tokyo")] =
        .ok { locale := "de_DE", timezone := some "UTC" } := by
  intro file given
  have hsafe : ∀ name ∈ variableNames, given.find? name = none →
      Binding.exposed (Binding.ofFile file.toList) name.toList = false := by decide +kernel
  have hempty : load (some file) (some given) [] =
      .ok { locale := "de_DE", timezone := some "UTC" } := by
    rw [load_file, config_eq]
    exact eq_ok_of_toOption (by decide +kernel)
  refine ⟨hsafe, by decide +kernel, hempty, ?_⟩
  rw [← hempty]
  exact (load_given_of_not_exposed file given).1 hsafe _ _

/-- A locale that refers to the process environment: where that has a tag, it is shown, even
though an environment is given that has none. -/
theorem load_given_exposed :
    let file := "STATUSCLOCK_LOCALE=$\x7bHOST_LOCALE\x7d\n"
    load (some file) (some []) [("HOST_LOCALE", "de_DE")] = .ok { locale := "de_DE" } ∧
      load (some file) (some []) [] = .ok {} ∧
      load (some file) (some []) [("HOST_LOCALE", "de_DE")] ≠ load (some file) (some []) [] := by
  intro file
  have hset :
      load (some file) (some []) [("HOST_LOCALE", "de_DE")] = .ok { locale := "de_DE" } := by
    rw [load_file, config_eq]
    exact eq_ok_of_toOption (by decide +kernel)
  have hunset : load (some file) (some []) [] = .ok {} := by
    rw [load_file, config_eq]
    exact eq_ok_of_toOption (by decide +kernel)
  refine ⟨hset, hunset, ?_⟩
  rw [hset, hunset, Ne, Except.ok.injEq]
  decide

end Environment

end ClockFace

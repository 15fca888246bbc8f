import ClockFace.Proofs.FileReferences

/-! # Files that are written as lines

`Binding.toLine` writes an assignment on a line of its own, with its value between single
quotes. The value may hold line ends, comment signs, equals signs and quotes: all that
matters is that it has no backslash, which would escape what follows, no carriage return,
which reading replaces, and no reference.

Reading takes such a line off the front of the text and leaves the rest (`readAll_toLine`), so
that a file of lines gives back its assignments, in order. Of the name it only matters how
it begins and that no character ends it.

## Key results

- `Binding.upToQuote_escaped`, `Binding.unescape_escaped`: a quoted value ends at its own quote
- `Binding.read_toLine`: a line is read as its assignment
- `Binding.expandAfter_eq_append`: assignments without references stay as they are
- `Environment.ofFile_fileText`: a file of lines sets what its assignments set
- `Environment.load_fileText`: a file and an environment are two ways to say the same
-/

namespace ClockFace

/-! ## Values -/

namespace Reference

/-- A text without a dollar sign before an opening brace holds no reference. -/
theorem expand_eq_self {s : List Char} (h : ¬['$', openBrace] <:+: s)
    (meaning : Reference → List Char) : expand meaning s = s := by
  induction s with
  | nil => rw [expand]
  | cons c rest ih =>
    have hopen : ¬(c = '$' && rest.head? = some openBrace) = true := by
      simp only [Bool.and_eq_true, decide_eq_true_eq]
      rintro ⟨rfl, hhead⟩
      obtain ⟨tail, rfl⟩ := List.head?_eq_some_iff.1 hhead
      exact h ⟨[], tail, rfl⟩
    rw [expand, if_neg hopen, ih fun hrest => h (hrest.trans (List.suffix_cons c rest).isInfix)]

end Reference

namespace Binding

/-- The value as it stands between single quotes. -/
def escaped (value : List Char) : List Char :=
  value.flatMap fun c => if c = '\'' then ['\\', '\''] else [c]

theorem escaped_quote (value : List Char) :
    escaped ('\'' :: value) = '\\' :: '\'' :: escaped value :=
  rfl

theorem escaped_cons {c : Char} (h : c ≠ '\'') (value : List Char) :
    escaped (c :: value) = c :: escaped value := by
  rw [escaped, List.flatMap_cons, if_neg h]
  rfl

/-- The quotes inside a value do not end it. -/
theorem upToQuote_escaped {value : List Char} (h : '\\' ∉ value) (rest : List Char) :
    upToQuote '\'' (escaped value ++ '\'' :: rest) = some (escaped value, rest) := by
  induction value with
  | nil => rfl
  | cons c value ih =>
    obtain ⟨hc, hvalue⟩ := not_or.1 (mt List.mem_cons.2 h)
    by_cases hquote : c = '\''
    · -- The backslash takes the quote along
      subst hquote
      rw [escaped_quote, List.cons_append, List.cons_append, upToQuote, ih hvalue]
      rfl
    · have hplain : ∀ d tail, c = '\\' → escaped value ++ '\'' :: rest = d :: tail → False :=
        fun _ _ hslash _ => hc hslash.symm
      rw [escaped_cons hquote, List.cons_append, upToQuote.eq_3 _ _ _ hplain, if_neg hquote,
        ih hvalue]
      rfl

/-- A character that is not a backslash stands for itself. -/
theorem unescape_cons {c : Char} (h : c ≠ '\\') (meaning : Char → Option Char) (s : List Char) :
    unescape meaning (c :: s) = c :: unescape meaning s := by
  cases s with
  | nil => rfl
  | cons d s => rw [unescape, if_neg h]

theorem unescape_escaped {value : List Char} (h : '\\' ∉ value) :
    unescape singleEscape? (escaped value) = value := by
  induction value with
  | nil => rfl
  | cons c value ih =>
    obtain ⟨hc, hvalue⟩ := not_or.1 (mt List.mem_cons.2 h)
    by_cases hquote : c = '\''
    · subst hquote
      rw [escaped_quote, unescape]
      exact congrArg ('\'' :: ·) (ih hvalue)
    · rw [escaped_cons hquote, unescape_cons (Ne.symm hc), ih hvalue]

theorem skipBlanks_cons {c : Char} (h : isInnerBlank c = false) (rest : List Char) :
    skipBlanks (c :: rest) = c :: rest :=
  List.dropWhile_cons_of_neg (ne_true_of_eq_false h)

/-- A value between quotes is read to its closing quote and no further. -/
theorem readValue_quoteValue {value : List Char} (h : '\\' ∉ value) (rest : List Char) :
    readValue (quoteValue value ++ rest) = .ok (value, rest) := by
  have hquoted : quoteValue value ++ rest = '\'' :: (escaped value ++ '\'' :: rest) := by
    rw [quoteValue, List.append_assoc]
    rfl
  rw [hquoted, readValue, skipBlanks_cons (by decide)]
  simp only [readQuoted, List.tail_cons]
  rw [upToQuote_escaped h]
  simp only [unescape_escaped h]

/-! ## Lines -/

/-- The name can stand in a file as it is: nothing in it ends a name, and it begins with a
Latin capital, so that it does not pass for a comment, a quoted name or the word before a
name. -/
def IsPlain (name : List Char) : Prop :=
  (∀ c ∈ name, isNameChar c = true) ∧ ∃ c rest, name = c :: rest ∧ c.isUpper = true

theorem skipExport_of_isUpper {c : Char} (h : c.isUpper = true) (rest : List Char) :
    skipExport (c :: rest) = c :: rest := by
  have hne : c ≠ 'e' := by
    rintro rfl
    exact absurd h (by decide)
  have hword : exportWord.isPrefixOf (c :: rest) = false := by
    rw [exportWord, show "export".toList = 'e' :: "xport".toList from rfl, List.isPrefixOf,
      beq_eq_false_iff_ne.2 hne.symm, Bool.false_and]
  rw [skipExport, hword]
  rfl

/-- A plain name is read up to the equals sign. -/
theorem readName_append {name : List Char} (h : IsPlain name) (rest : List Char) :
    readName (name ++ '=' :: rest) = .ok (some name, '=' :: rest) := by
  obtain ⟨hchars, c, tail, rfl, hupper⟩ := h
  -- A capital opens neither a comment nor a quoted name
  have hcomment : ∀ s, c :: tail ++ '=' :: rest = '#' :: s → False := by
    intro s hs
    rw [(List.cons.inj hs).1] at hupper
    exact absurd hupper (by decide)
  have hquote : ∀ s, c :: tail ++ '=' :: rest = '\'' :: s → False := by
    intro s hs
    rw [(List.cons.inj hs).1] at hupper
    exact absurd hupper (by decide)
  have hname : (c :: tail ++ '=' :: rest).takeWhile isNameChar = c :: tail := by
    rw [List.takeWhile_append_of_pos hchars, List.takeWhile_cons_of_neg (by decide),
      List.append_nil]
  rw [readName.eq_3 _ hcomment hquote, hname, List.drop_left]
  rfl

/-- A line is read as its assignment. -/
theorem read_toLine {name value : List Char} (hname : IsPlain name) (hvalue : '\\' ∉ value)
    (rest : List Char) :
    read (toLine name value ++ rest) = .ok (some ⟨name, some value⟩, rest) := by
  have hline : toLine name value ++ rest = name ++ '=' :: (quoteValue value ++ '\n' :: rest) := by
    simp [toLine]
  have hexport : skipExport (name ++ '=' :: (quoteValue value ++ '\n' :: rest)) =
      name ++ '=' :: (quoteValue value ++ '\n' :: rest) := by
    obtain ⟨-, c, tail, rfl, hupper⟩ := hname
    exact skipExport_of_isUpper hupper _
  have hend : readLineEnd (skipComment ('\n' :: rest)) = .ok ((), rest) := by
    rw [skipComment, skipBlanks_cons (by decide)]
    show readLineEnd ('\n' :: rest) = _
    rw [readLineEnd, skipBlanks_cons (by decide)]
    rfl
  rw [hline, read, hexport, readName_append hname]
  simp only [bind, Except.bind, skipBlanks_cons (c := '=') (by decide),
    readValue_quoteValue hvalue, Except.map, hend]
  rfl

/-- Reading goes on after an assignment that is understood. -/
theorem readAll_cons {c : Char} {tail after : List Char} {b : Binding}
    (hblank : Text.isBlank c = false) (hstep : step (c :: tail) = (some b, after))
    (hshort : after.length < (c :: tail).length) :
    readAll (c :: tail) = b :: readAll after := by
  rw [readAll, List.dropWhile_cons_of_neg (ne_true_of_eq_false hblank)]
  simp only [hstep, if_pos hshort]
  rfl

/-- Reading a text takes a line off its front. -/
theorem readAll_toLine {name value : List Char} (hname : IsPlain name) (hvalue : '\\' ∉ value)
    (rest : List Char) :
    readAll (toLine name value ++ rest) = ⟨name, some value⟩ :: readAll rest := by
  have hstep : step (toLine name value ++ rest) = (some ⟨name, some value⟩, rest) := by
    rw [step, read_toLine hname hvalue]
  have hshort : rest.length < (toLine name value ++ rest).length := by
    rw [toLine, List.length_append, List.length_append]
    exact Nat.lt_add_left_iff_pos.2 (Nat.add_pos_right _ Nat.one_pos)
  -- The name is no blank, so that nothing is skipped before the line
  obtain ⟨hchars, c, tail, rfl, -⟩ := hname
  have hc := hchars c List.mem_cons_self
  rw [isNameChar, Bool.and_eq_true, Bool.not_eq_true'] at hc
  exact readAll_cons hc.2 hstep hshort

/-- The assignment of a text to a variable. -/
def ofVariable (a : String × String) : Binding :=
  ⟨a.1.toList, some a.2.toList⟩

/-- The line of a file that assigns a text to a variable. -/
def variableLine (a : String × String) : List Char :=
  toLine a.1.toList a.2.toList

/-- Reading a text of lines gives back their assignments. -/
theorem readAll_lines {assignments : List (String × String)}
    (h : ∀ a ∈ assignments, IsPlain a.1.toList ∧ '\\' ∉ a.2.toList) :
    readAll (assignments.flatMap variableLine) = assignments.map ofVariable := by
  induction assignments with
  | nil =>
    rw [readAll]
    rfl
  | cons a rest ih =>
    obtain ⟨hname, hvalue⟩ := h a List.mem_cons_self
    rw [List.flatMap_cons, variableLine, readAll_toLine hname hvalue,
      ih fun a' ha' => h a' (List.mem_cons_of_mem _ ha')]
    rfl

/-! ## Files -/

/-- A text without a carriage return has its line ends as they should be. -/
theorem unifyLines_eq_self {s : List Char} (h : '\r' ∉ s) : unifyLines s = s := by
  induction s with
  | nil => rfl
  | cons c rest ih =>
    obtain ⟨hc, hrest⟩ := not_or.1 (mt List.mem_cons.2 h)
    have hplain : c = '\r' → False := fun hreturn => hc hreturn.symm
    rw [unifyLines.eq_4 _ _ (fun _ hreturn _ => hplain hreturn) hplain, ih hrest]

theorem IsPlain.return_not_mem {name : List Char} (h : IsPlain name) : '\r' ∉ name := fun hmem =>
  absurd (h.1 _ hmem) (by decide)

theorem return_not_mem_toLine {name value : List Char} (hname : IsPlain name)
    (hvalue : '\r' ∉ value) : '\r' ∉ toLine name value := by
  have hquoted : '\r' ∉ escaped value := by
    intro hmem
    obtain ⟨c, hc, hreturn⟩ := List.mem_flatMap.1 hmem
    split at hreturn
    · exact absurd hreturn (by decide)
    · exact hvalue (List.mem_singleton.1 hreturn ▸ hc)
  have hline : toLine name value = name ++ ['=', '\''] ++ escaped value ++ ['\'', '\n'] := by
    simp [toLine, quoteValue, escaped]
  have hopen : '\r' ∉ ['=', '\''] := by decide
  have hclose : '\r' ∉ ['\'', '\n'] := by decide
  rw [hline]
  simp only [List.mem_append, hname.return_not_mem, hquoted, hopen, hclose, or_self,
    not_false_eq_true]

/-- A file of lines holds their assignments. -/
theorem ofFile_lines {assignments : List (String × String)}
    (h : ∀ a ∈ assignments, IsPlain a.1.toList ∧ '\\' ∉ a.2.toList ∧ '\r' ∉ a.2.toList) :
    ofFile (assignments.flatMap variableLine) = assignments.map ofVariable := by
  have hreturn : '\r' ∉ assignments.flatMap variableLine := by
    intro hmem
    obtain ⟨a, ha, hline⟩ := List.mem_flatMap.1 hmem
    exact return_not_mem_toLine (h a ha).1 (h a ha).2.2 hline
  -- The first character is a capital and not a byte order mark
  have hmark : ∀ rest, assignments.flatMap variableLine = '\uFEFF' :: rest → False := by
    intro rest hrest
    cases assignments with
    | nil => cases hrest
    | cons a others =>
      obtain ⟨-, c, tail, hname, hupper⟩ := (h a List.mem_cons_self).1
      rw [List.flatMap_cons, variableLine, hname] at hrest
      rw [(List.cons.inj hrest).1] at hupper
      exact absurd hupper (by decide)
  rw [ofFile.eq_2 _ hmark, unifyLines_eq_self hreturn,
    readAll_lines fun a ha => ⟨(h a ha).1, (h a ha).2.1⟩]

/-- Assignments without references stay as they are. -/
theorem expandAfter_eq_append (process : List Char → Option (List Char)) (earlier : List Binding)
    {bindings : List Binding}
    (h : ∀ b ∈ bindings, ∀ v, b.value = some v → ¬['$', Reference.openBrace] <:+: v) :
    expandAfter process earlier bindings = earlier ++ bindings := by
  induction bindings generalizing earlier with
  | nil => rw [expandAfter, List.append_nil]
  | cons b rest ih =>
    have hvalue : b.value.map (Reference.expand (meaning earlier process)) = b.value := by
      cases hv : b.value with
      | none => rfl
      | some v => exact congrArg some (Reference.expand_eq_self (h b List.mem_cons_self v hv) _)
    rw [expandAfter, hvalue, ih _ fun b' hb' => h b' (List.mem_cons_of_mem _ hb'),
      List.append_assoc]
    rfl

end Binding

/-! ## Variables -/

namespace Environment

theorem Variables.find?_append (vs ws : Variables) (name : String) :
    (vs ++ ws).find? name = (ws.find? name <|> vs.find? name) := by
  rw [find?, List.reverse_append, List.lookup_append, Option.or_eq_orElse]
  rfl

/-- The last assignment to a variable gives its text. -/
theorem last?_map_ofVariable (vs : Variables) (name : String) :
    ((Binding.last? (vs.map Binding.ofVariable) name.toList).bind Binding.value).map
      String.ofList = vs.find? name := by
  rw [Binding.last?, Variables.find?, ← List.map_reverse]
  generalize vs.reverse = ws
  induction ws with
  | nil => rfl
  | cons w rest ih =>
    obtain ⟨first, text⟩ := w
    rw [List.map_cons, List.find?_cons, List.lookup_cons]
    by_cases hfirst : name = first
    · subst hfirst
      rw [Binding.ofVariable, beq_self_eq_true, beq_self_eq_true]
      exact congrArg some String.ofList_toList
    · have hne : first.toList ≠ name.toList := fun h => hfirst (String.toList_injective h).symm
      rw [Binding.ofVariable, beq_eq_false_iff_ne.2 hfirst, beq_eq_false_iff_ne.2 hne]
      exact ih

/-- The text can be written between single quotes, and stands there for itself. -/
def IsQuotable (text : String) : Prop :=
  '\\' ∉ text.toList ∧ '\r' ∉ text.toList ∧ ¬['$', Reference.openBrace] <:+: text.toList

/-- The file that assigns texts to variables, each on a line. -/
def fileText (assignments : Variables) : String :=
  String.ofList (assignments.flatMap Binding.variableLine)

/-- A file of lines sets what its assignments set. -/
theorem ofFile_fileText {assignments : Variables}
    (h : ∀ a ∈ assignments, Binding.IsPlain a.1.toList ∧ IsQuotable a.2)
    (process : Variables) (name : String) :
    ofFile process (fileText assignments) name = assignments.find? name := by
  have hread : Binding.ofFile (fileText assignments).toList =
      assignments.map Binding.ofVariable := by
    rw [fileText, String.toList_ofList]
    exact Binding.ofFile_lines fun a ha => ⟨(h a ha).1, (h a ha).2.1, (h a ha).2.2.1⟩
  have hplain : ∀ b ∈ assignments.map Binding.ofVariable, ∀ v, b.value = some v →
      ¬['$', Reference.openBrace] <:+: v := by
    intro b hb v hv
    obtain ⟨a, ha, rfl⟩ := List.mem_map.1 hb
    obtain rfl := Option.some.inj hv
    exact (h a ha).2.2.2
  rw [ofFile_eq, hread, Binding.expandAll, Binding.expandAfter_eq_append _ _ hplain,
    List.nil_append, last?_map_ofVariable]

/-- The names of the variables of a display can stand in a file as they are. -/
theorem isPlain_of_mem_variableNames {name : String} (h : name ∈ variableNames) :
    Binding.IsPlain name.toList := by
  have hall : ∀ name ∈ variableNames, name.toList.all Binding.isNameChar = true ∧
      name.toList.head? = some 'S' := by decide +kernel
  obtain ⟨hchars, hhead⟩ := hall name h
  obtain ⟨tail, htail⟩ := List.head?_eq_some_iff.1 hhead
  exact ⟨List.all_eq_true.1 hchars, 'S', tail, htail, rfl⟩

/-- A file of lines and an environment are two ways to say the same, and the environment
wins: loading both is loading an environment that has the assignments of the file first. -/
theorem load_fileText (assignments given p q : Variables)
    (h : ∀ a ∈ assignments, a.1 ∈ variableNames ∧ IsQuotable a.2) :
    load (some (fileText assignments)) (some given) p =
      load none (some (assignments ++ given)) q := by
  have hplain : ∀ a ∈ assignments, Binding.IsPlain a.1.toList ∧ IsQuotable a.2 := fun a ha =>
    ⟨isPlain_of_mem_variableNames (h a ha).1, (h a ha).2⟩
  -- Both sides look a variable up in the environment first and then in the assignments
  have hfind : ∀ name,
      (given.find? name <|> ofFile p (fileText assignments) name) =
        ((assignments ++ given).find? name <|> none) := by
    intro name
    rw [ofFile_fileText hplain, Variables.find?_append]
    cases given.find? name <|> assignments.find? name <;> rfl
  rw [load_file, load]
  exact congrArg config (funext hfind)

/-- Values with quotes, comment signs, equals signs and a line end, one of which looks like a
line of its own; a variable that is assigned twice; and a zone that the environment takes
over. -/
theorem load_fileText_quotes :
    let assignments : Variables := [("STATUSCLOCK_CLOCK_DATE_FORMAT", "EEE"),
      ("STATUSCLOCK_CLOCK_DATE_FORMAT", "h 'o''clock' # \"d\"\nSTATUSCLOCK_LOCALE='de_DE'"),
      ("STATUSCLOCK_HOUR24", " yes = "), ("STATUSCLOCK_TIMEZONE", "Asia/Tokyo")]
    let given : Variables := [("STATUSCLOCK_TIMEZONE", "UTC"), ("STATUSCLOCK_HOUR24", "yes")]
    let expected : Except Failure Config := .ok
      { hour24 := true, timezone := some "UTC",
        dateFormat := "h 'o''clock' # \"d\"\nSTATUSCLOCK_LOCALE='de_DE'" }
    (∀ a ∈ assignments, a.1 ∈ variableNames ∧ IsQuotable a.2) ∧
      load (some (fileText assignments)) (some given) [("STATUSCLOCK_LOCALE", "fr_FR")] =
        load none (some (assignments ++ given)) [] ∧
      load none (some (assignments ++ given)) [] = expected := by
  intro assignments given expected
  have hquotable : ∀ a ∈ assignments, a.1 ∈ variableNames ∧ IsQuotable a.2 := by
    unfold IsQuotable
    decide +kernel
  refine ⟨hquotable, load_fileText assignments given _ _ hquotable, ?_⟩
  rw [load, config_eq]
  exact eq_ok_of_toOption (by decide +kernel)

end Environment

end ClockFace

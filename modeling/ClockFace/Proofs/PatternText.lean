import ClockFace.Proofs.FieldText
import ClockFace.Proofs.PatternSplit

/-! # Where tokens come from

The literal text of a pattern is made of its characters and of apostrophes, and a field in
front of it comes from its letter in front. Both go through the three steps of reading: the
marks, the atoms and the tokens.

## Key results

- `Pattern.mem_of_mem_literals`: where literal text comes from
- `Pattern.head?_of_tokensOf`: where a field in front comes from
-/

namespace ClockFace

/-! ## Marks -/

namespace Mark

/-- A mark that is a character stands for one of the pattern. -/
theorem mem_of_mem_readFrom {start place : Nat} {u : List Char} {c : Char}
    (h : (place, .char c) ∈ readFrom start u) : c ∈ u := by
  fun_induction readFrom start u with
  | case1 => cases h
  | case2 start rest ih =>
    obtain hhead | h := List.mem_cons.1 h
    · cases hhead
    · exact List.mem_cons_of_mem _ (List.mem_cons_of_mem _ (ih h))
  | case3 start first rest hpair mark ih =>
    obtain hhead | h := List.mem_cons.1 h
    · have hmark : .char c = of first := (Prod.mk.inj hhead).2
      rw [of] at hmark
      split at hmark
      · cases hmark
      · split at hmark
        · cases hmark
        · obtain rfl := Mark.char.inj hmark
          exact List.mem_cons_self
    · exact List.mem_cons_of_mem _ (ih h)

theorem eq_of_of_eq_quote {c : Char} (h : of c = .quote) : c = '\'' :=
  Decidable.byContradiction fun hne => of_ne_quote hne h

/-- An opening or closing apostrophe in front is one of the pattern. -/
theorem head?_of_readFrom {start place : Nat} {u : List Char} {rest : List (Nat × Mark)}
    (h : readFrom start u = (place, .quote) :: rest) : u.head? = some '\'' := by
  fun_cases readFrom start u with
  | case1 => cases h
  | case2 more => rfl
  | case3 first more hpair mark =>
    rw [readFrom_cons start fun hfirst more' hmore => hpair more' hfirst hmore] at h
    have hmark : of first = .quote := (Prod.mk.inj (List.cons.inj h).1).2
    rw [eq_of_of_eq_quote hmark, List.head?_cons]

end Mark

/-! ## Atoms -/

namespace Atom

/-- What holds of all that a quotation has said and of all marks, read as text or not, holds
of all atoms. -/
theorem forall_mem_scan {α : Type} {P : Atom → Prop} {held : Option (List (α × Atom))}
    {marks : List (α × Mark)} (hheld : ∀ said ∈ held, ∀ a ∈ said, P a.2)
    (hmarks : ∀ m ∈ marks, P (quoted m.2) ∧ P (unquoted m.2)) :
    ∀ a ∈ scan held marks, P a.2 := by
  induction marks generalizing held with
  | nil =>
    intro a ha
    cases ha
  | cons m rest ih =>
    obtain ⟨place, mark⟩ := m
    rw [List.forall_mem_cons] at hmarks
    obtain ⟨hmark, hrest⟩ := hmarks
    have hnone : ∀ a ∈ scan none rest, P a.2 :=
      ih (fun said hsaid => absurd hsaid (Option.not_mem_none said)) hrest
    cases held with
    | none =>
      rw [scan]
      split
      · -- A quotation opens that has said nothing so far
        refine ih (fun said hsaid => ?_) hrest
        obtain rfl := Option.some.inj hsaid
        exact List.forall_mem_nil _
      · exact List.forall_mem_cons.2 ⟨hmark.2, hnone⟩
    | some said =>
      have hsaid : ∀ a ∈ said, P a.2 := hheld said rfl
      rw [scan]
      split
      · rw [List.forall_mem_append]
        exact ⟨fun a ha => hsaid a (List.mem_reverse.1 ha), hnone⟩
      · refine ih (fun said' hsaid' => ?_) hrest
        obtain rfl := Option.some.inj hsaid'
        exact List.forall_mem_cons.2 ⟨hmark.1, hsaid⟩

/-- A quotation that is open begins with text, unless it closes before it has said
anything. -/
theorem ne_field_of_scan_some {α : Type} {letter : Char} {said : List (α × Atom)}
    {marks : List (α × Mark)} (hsaid : ∀ a ∈ said, a.2 ≠ .field letter)
    (hclose : said = [] → ∀ place rest, marks ≠ (place, .quote) :: rest)
    {a : α × Atom} {more : List (α × Atom)} (h : scan (some said) marks = a :: more) :
    a.2 ≠ .field letter := by
  induction marks generalizing said with
  | nil => cases h
  | cons m rest ih =>
    obtain ⟨place, mark⟩ := m
    rw [scan] at h
    split at h
    · next hquote =>
      subst hquote
      cases hreverse : said.reverse with
      | nil => exact absurd rfl (hclose (List.reverse_eq_nil_iff.1 hreverse) place rest)
      | cons first others =>
        rw [hreverse, List.cons_append] at h
        obtain ⟨rfl, -⟩ := List.cons.inj h
        refine hsaid first (List.mem_reverse.1 ?_)
        rw [hreverse]
        exact List.mem_cons_self
    · exact ih (List.forall_mem_cons.2 ⟨quoted_ne_field mark letter, hsaid⟩)
        (fun hnil => absurd hnil (List.cons_ne_nil _ _)) h

/-- A field letter in front of the atoms stands in front of the pattern: no quotation is
empty, since two apostrophes in a row are a pair. -/
theorem head?_of_scan {start place : Nat} {u : List Char} {letter : Char}
    {more : List (Nat × Atom)}
    (h : scan none (Mark.readFrom start u) = (place, .field letter) :: more) :
    u.head? = some letter := by
  fun_cases Mark.readFrom start u with
  | case1 => cases h
  | case2 rest =>
    rw [Mark.readFrom, scan, if_neg Mark.noConfusion] at h
    cases h
  | case3 first rest hpair mark =>
    rw [Mark.readFrom_cons start fun hfirst more' hmore => hpair more' hfirst hmore, scan] at h
    split at h
    · next hquote =>
      -- The quotation does not close at once
      have hopen (next : Nat) (marks : List (Nat × Mark)) :
          Mark.readFrom (start + 1) rest ≠ (next, .quote) :: marks := by
        intro hmarks
        obtain ⟨tail, htail⟩ := List.head?_eq_some_iff.1 (Mark.head?_of_readFrom hmarks)
        exact hpair tail (Mark.eq_of_of_eq_quote hquote) htail
      exact absurd rfl (ne_field_of_scan_some (List.forall_mem_nil _) (fun _ => hopen) h)
    · have hletter : unquoted (Mark.of first) = .field letter :=
        (Prod.mk.inj (List.cons.inj h).1).2
      rw [eq_of_unquoted_of hletter, List.head?_cons]

end Atom

/-! ## Tokens -/

namespace Token

/-- Adding a field letter adds no text. -/
theorem text_mem_of_mem_addAtom {α : Type} {place next : α} {c letter : Char}
    {tokens : List (α × Token)} (h : (place, .text c) ∈ addAtom (next, .field letter) tokens) :
    (place, .text c) ∈ tokens := by
  match tokens with
  | [] =>
    obtain hhead | h := List.mem_cons.1 h
    · cases hhead
    · exact h
  | (_, .text _) :: _ =>
    obtain hhead | h := List.mem_cons.1 h
    · cases hhead
    · exact h
  | (_, .field other n) :: rest =>
    rw [addAtom] at h
    split at h
    · obtain hhead | h := List.mem_cons.1 h
      · cases hhead
      · exact List.mem_cons_of_mem _ h
    · obtain hhead | h := List.mem_cons.1 h
      · cases hhead
      · exact h

/-- A token that is text comes from an atom that is. -/
theorem text_mem_of_mem_group {α : Type} {place : α} {c : Char} {atoms : List (α × Atom)}
    (h : (place, .text c) ∈ group atoms) : (place, .text c) ∈ atoms := by
  induction atoms with
  | nil => cases h
  | cons a rest ih =>
    have hadd : (place, .text c) ∈ addAtom a (group rest) := h
    obtain ⟨next, atom⟩ := a
    cases atom with
    | text other =>
      obtain hhead | hrest := List.mem_cons.1 hadd
      · obtain ⟨rfl, htext⟩ := Prod.mk.inj hhead
        obtain rfl := Token.text.inj htext
        exact List.mem_cons_self
      · exact List.mem_cons_of_mem _ (ih hrest)
    | field letter => exact List.mem_cons_of_mem _ (ih (text_mem_of_mem_addAtom hadd))

end Token

namespace Pattern

/-- Literal text is made of the characters of the pattern, and of apostrophes. -/
theorem mem_of_mem_literals {b : List Char} {c : Char} (h : c ∈ literals (tokensOf b)) :
    c ∈ b ∨ c = '\'' := by
  have hatoms : ∀ a ∈ Atom.scan none (Mark.readFrom 0 b),
      ∀ said, a.2 = .text said → said ∈ b ∨ said = '\'' := by
    refine Atom.forall_mem_scan (P := fun a => ∀ said, a = .text said → said ∈ b ∨ said = '\'')
      (fun said hsaid => absurd hsaid (Option.not_mem_none said)) ?_
    rintro ⟨place, mark⟩ hmark
    have hquoted : ∀ said, Atom.quoted mark = .text said → said ∈ b ∨ said = '\'' := by
      rintro said hsaid
      cases mark with
      | char other =>
        obtain rfl := Atom.text.inj hsaid
        exact .inl (Mark.mem_of_mem_readFrom hmark)
      | apostrophe => exact .inr (Atom.text.inj hsaid).symm
      | quote => exact .inr (Atom.text.inj hsaid).symm
    refine ⟨hquoted, fun said hsaid => hquoted said ?_⟩
    -- Outside quotations a mark says no other text than inside
    cases mark with
    | char other =>
      simp only [Atom.unquoted] at hsaid
      split at hsaid
      · cases hsaid
      · exact hsaid
    | apostrophe => exact hsaid
    | quote => exact hsaid
  obtain ⟨token, htoken, hc⟩ := List.mem_flatMap.1 h
  obtain ⟨⟨place, token⟩, hplaced, rfl⟩ := List.mem_map.1 htoken
  cases token with
  | text said =>
    obtain rfl := List.mem_singleton.1 hc
    exact hatoms _ (Token.text_mem_of_mem_group hplaced) c rfl
  | field letter n => cases hc

/-- The literal text of a pattern without markers has none. -/
theorem free_literals {b : List Char} (h : Marker.Free b) :
    Marker.Free (literals (tokensOf b)) := by
  have hopening : Marker.opening ≠ '\'' := by decide
  have hclosing : Marker.closing ≠ '\'' := by decide
  exact ⟨fun hmem => (mem_of_mem_literals hmem).elim h.1 hopening,
    fun hmem => (mem_of_mem_literals hmem).elim h.2 hclosing⟩

/-- A field in front of the tokens stands in front of the pattern. -/
theorem head?_of_tokensOf {u : List Char} {letter : Char} {n : Nat} {rest : List Token}
    (h : tokensOf u = .field letter n :: rest) : u.head? = some letter := by
  obtain ⟨⟨place, token⟩, tokens, hgroup, rfl, -⟩ := List.map_eq_cons_iff.1 h
  rw [Token.ofPattern, Mark.ofPattern] at hgroup
  cases hatoms : Atom.scan none (Mark.readFrom 0 u) with
  | nil =>
    rw [hatoms] at hgroup
    cases hgroup
  | cons a more =>
    rw [hatoms] at hgroup
    have hletter := Token.eq_field_of_addAtom hgroup
    obtain ⟨place, atom⟩ := a
    obtain rfl : atom = .field letter := hletter
    exact Atom.head?_of_scan hatoms

end Pattern

end ClockFace

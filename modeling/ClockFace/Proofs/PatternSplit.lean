import ClockFace.Pattern.Basic
import ClockFace.Pattern.Marker

/-! # Cutting patterns

Where a pattern is cut before a character outside quotations, its tokens are those of the
two parts, one after the other. The three steps of reading come apart in turn: the marks
because no pair of apostrophes lies over the cut, the atoms because no quotation does, and
the tokens unless a run of one field letter does.

## Key results

- `Mark.readFrom_append_cons`, `Atom.scan_append`, `Token.group_append`: the three steps
- `Atom.isSome_heldAfter`: a quotation is open exactly if it is when every apostrophe is counted
- `Marker.ne_field_of_findIn`: the scan for the AM/PM letter misses no AM/PM field
- `Pattern.ofPattern_append_cons`, `Pattern.tokensOf_append_cons`: the tokens of a pattern that is
  cut
-/

namespace ClockFace

/-- A quotation is open after a character, when every apostrophe opens or closes one. -/
def Marker.toggle (quoted : Bool) (c : Char) : Bool :=
  if c = '\'' then !quoted else quoted

/-- A quotation is open after a text, when every apostrophe opens or closes one. -/
def Marker.quotedAfter (quoted : Bool) : List Char → Bool
  | [] => quoted
  | c :: rest => quotedAfter (toggle quoted c) rest

theorem Marker.quotedAfter_append (quoted : Bool) (a b : List Char) :
    quotedAfter quoted (a ++ b) = quotedAfter (quotedAfter quoted a) b := by
  induction a generalizing quoted with
  | nil => rfl
  | cons c rest ih => simp only [List.cons_append, quotedAfter, ih]

/-- A text without apostrophes neither opens nor closes a quotation. -/
theorem Marker.quotedAfter_of_not_mem {text : List Char} (h : '\'' ∉ text) (quoted : Bool) :
    quotedAfter quoted text = quoted := by
  induction text with
  | nil => rfl
  | cons c rest ih =>
    rw [List.mem_cons, not_or] at h
    rw [quotedAfter, toggle, if_neg (Ne.symm h.1), ih h.2]

/-! ## Marks -/

namespace Mark

/-- The mark of a character on its own. -/
def of (c : Char) : Mark :=
  if c = '\'' then .quote else if c = '\x00' then .apostrophe else .char c

theorem of_ne_quote {c : Char} (h : c ≠ '\'') : of c ≠ .quote := by
  rw [of, if_neg h]
  split <;> exact Mark.noConfusion

/-- A character that begins no pair of apostrophes stands for itself. -/
theorem readFrom_cons (start : Nat) {c : Char} {rest : List Char}
    (h : c = '\'' → ∀ more, rest ≠ '\'' :: more) :
    readFrom start (c :: rest) = (start, of c) :: readFrom (start + 1) rest :=
  readFrom.eq_3 start c rest fun more hc hrest => h hc more hrest

/-- The marks come apart before a character that is no apostrophe. -/
theorem readFrom_append_cons (start : Nat) (u : List Char) {c : Char} (hc : c ≠ '\'')
    (v : List Char) :
    readFrom start (u ++ c :: v) =
      readFrom start u ++ readFrom (start + u.length) (c :: v) := by
  fun_induction readFrom start u with
  | case1 => rfl
  | case2 start rest ih =>
    -- A pair is one mark over two characters
    have hplace : start + ('\'' :: '\'' :: rest).length = start + 2 + rest.length := by
      simp only [List.length_cons]
      omega
    rw [hplace, List.cons_append, List.cons_append, readFrom, ih, List.cons_append]
  | case3 start first rest hpair mark ih =>
    have hplace : start + (first :: rest).length = start + 1 + rest.length := by
      simp only [List.length_cons]
      omega
    -- Nor does an apostrophe at the end of the first part make a pair with `c`
    have hcut : first = '\'' → ∀ more, rest ++ c :: v ≠ '\'' :: more := by
      intro hfirst more hmore
      cases rest with
      | nil => exact hc (List.cons.inj hmore).1
      | cons next rest =>
        obtain ⟨rfl, -⟩ := List.cons.inj hmore
        exact hpair rest hfirst rfl
    rw [hplace, List.cons_append, readFrom_cons start hcut, ih, List.cons_append]
    rfl

/-- Reading from a later offset moves all places. -/
theorem readFrom_add (start shift : Nat) (u : List Char) :
    readFrom (start + shift) u = (readFrom start u).map (Prod.map (· + shift) id) := by
  fun_induction readFrom start u with
  | case1 => rfl
  | case2 start rest ih =>
    rw [readFrom, Nat.add_right_comm, ih]
    rfl
  | case3 start first rest hpair mark ih =>
    rw [readFrom_cons _ fun hfirst more hrest => hpair more hfirst hrest, Nat.add_right_comm, ih]
    rfl

end Mark

/-! ## Atoms -/

namespace Atom

/-- Inside a quotation everything is text. -/
theorem quoted_ne_field (mark : Mark) (letter : Char) : quoted mark ≠ .field letter := by
  cases mark <;> exact Atom.noConfusion

/-- Only a letter itself is its field. -/
theorem eq_of_unquoted_of {c letter : Char} (h : unquoted (Mark.of c) = .field letter) :
    c = letter := by
  rw [Mark.of] at h
  split at h
  · cases h
  · split at h
    · cases h
    · rw [unquoted] at h
      split at h
      · exact Atom.field.inj h
      · cases h

/-- What the quotation has said that is open after some marks, if one is. -/
def heldAfter {α : Type} (held : Option (List (α × Atom))) :
    List (α × Mark) → Option (List (α × Atom))
  | [] => held
  | (place, mark) :: rest =>
    match held with
    | none => if mark = .quote then heldAfter (some []) rest else heldAfter none rest
    | some said =>
      if mark = .quote then heldAfter none rest
      else heldAfter (some ((place, quoted mark) :: said)) rest

/-- The second part of the marks goes on with the quotation that the first leaves open. -/
theorem scan_append {α : Type} (held : Option (List (α × Atom))) (u v : List (α × Mark)) :
    scan held (u ++ v) = scan held u ++ scan (heldAfter held u) v := by
  induction u generalizing held with
  | nil => rfl
  | cons m rest ih =>
    obtain ⟨place, mark⟩ := m
    cases held with
    | none =>
      simp only [List.cons_append, scan, heldAfter]
      split
      · -- A quotation opens; its atoms come when it closes
        exact ih _
      · rw [ih, List.cons_append]
    | some said =>
      simp only [List.cons_append, scan, heldAfter]
      split
      · -- The quotation closes, and what it has said comes before the rest
        rw [ih, List.append_assoc]
      · exact ih _

/-- A quotation is open after the marks of a text exactly if it is when every apostrophe
opens or closes one: the two apostrophes of a pair make no difference. -/
theorem isSome_heldAfter (held : Option (List (Nat × Atom))) (start : Nat) (u : List Char) :
    (heldAfter held (Mark.readFrom start u)).isSome = Marker.quotedAfter held.isSome u := by
  fun_induction Mark.readFrom start u generalizing held with
  | case1 => rfl
  | case2 start rest ih =>
    -- The pair leaves the quotation as it is, and toggling twice does too
    cases held <;> simp [heldAfter, Marker.quotedAfter, Marker.toggle, ih]
  | case3 start first rest hpair mark ih =>
    by_cases hfirst : first = '\''
    · have hmark : mark = .quote := if_pos hfirst
      cases held <;> simp [heldAfter, Marker.quotedAfter, Marker.toggle, ih, hmark, hfirst]
    · have hmark : mark ≠ .quote := Mark.of_ne_quote hfirst
      cases held <;> simp [heldAfter, Marker.quotedAfter, Marker.toggle, ih, hmark, hfirst]

/-- After a text that leaves no quotation open, reading starts afresh. -/
theorem scan_readFrom_append (start : Nat) {u : List Char} {c : Char} (v : List Char)
    (hc : c ≠ '\'') (hu : Marker.quotedAfter false u = false) :
    scan none (Mark.readFrom start (u ++ c :: v)) =
      scan none (Mark.readFrom start u) ++
        scan none (Mark.readFrom (start + u.length) (c :: v)) := by
  have hheld := isSome_heldAfter none start u
  rw [Option.isSome_none, hu, Option.isSome_eq_false_iff, Option.isNone_iff_eq_none] at hheld
  rw [Mark.readFrom_append_cons start u hc, scan_append, hheld]

end Atom

/-! ## Tokens -/

namespace Token

/-- An atom that does not join the tokens behind does not join them through others either. -/
theorem addAtom_append {α : Type} (atom : α × Atom) (a b : List (α × Token))
    (h : ∀ letter place length rest, b = (place, .field letter length) :: rest →
      atom.2 ≠ .field letter) :
    addAtom atom (a ++ b) = addAtom atom a ++ b := by
  obtain ⟨place, atom⟩ := atom
  cases atom with
  | text c => rfl
  | field letter =>
    match a, b with
    | [], [] => rfl
    | [], (next, .text c) :: rest => rfl
    | [], (next, .field other n) :: rest =>
      -- Only here do the two lists meet
      have hne : letter ≠ other := by
        rintro rfl
        exact h letter next n rest rfl rfl
      simp only [List.nil_append, addAtom, if_neg hne, List.cons_append]
    | (next, .text c) :: more, b => rfl
    | (next, .field other n) :: more, b =>
      simp only [List.cons_append, addAtom]
      split <;> rfl

/-- The tokens come apart unless a run of one field letter lies over the cut. -/
theorem group_append {α : Type} (u v : List (α × Atom))
    (h : ∀ letter place length rest, group v = (place, .field letter length) :: rest →
      ∀ a ∈ u, a.2 ≠ .field letter) :
    group (u ++ v) = group u ++ group v := by
  induction u with
  | nil => rfl
  | cons a rest ih =>
    -- The first token of `v` stays the one to avoid, for every atom of `u`
    have hrest := ih fun letter place length more hv b hb =>
      h letter place length more hv b (List.mem_cons_of_mem a hb)
    have hatom : ∀ letter place length more, group v = (place, .field letter length) :: more →
        a.2 ≠ .field letter := by
      intro letter place length more hv
      exact h letter place length more hv a List.mem_cons_self
    rw [List.cons_append]
    show addAtom a (group (rest ++ v)) = addAtom a (group rest) ++ group v
    rw [hrest, addAtom_append a _ _ hatom]

/-- A field in front comes from its letter in front. -/
theorem eq_field_of_addAtom {α : Type} {atom : α × Atom} {tokens rest : List (α × Token)}
    {place : α} {letter : Char} {length : Nat}
    (h : addAtom atom tokens = (place, .field letter length) :: rest) :
    atom.2 = .field letter := by
  obtain ⟨next, atom⟩ := atom
  cases atom with
  | text c =>
    have htext := (List.cons.inj h).1
    cases htext
  | field other =>
    match tokens with
    | [] =>
      obtain ⟨rfl, -⟩ := Token.field.inj (Prod.mk.inj (List.cons.inj h).1).2
      rfl
    | (_, .text c) :: _ =>
      obtain ⟨rfl, -⟩ := Token.field.inj (Prod.mk.inj (List.cons.inj h).1).2
      rfl
    | (_, .field _ n) :: _ =>
      simp only [addAtom] at h
      split at h <;> obtain ⟨rfl, -⟩ := Token.field.inj (Prod.mk.inj (List.cons.inj h).1).2 <;> rfl

/-- Put a field letter before tokens. -/
def joinField (letter : Char) : List Token → List Token
  | .field other n :: rest =>
    if letter = other then .field letter (n + 1) :: rest
    else .field letter 1 :: .field other n :: rest
  | rest => .field letter 1 :: rest

theorem map_addAtom_field {α : Type} (place : α) (letter : Char) (tokens : List (α × Token)) :
    (addAtom (place, .field letter) tokens).map Prod.snd =
      joinField letter (tokens.map Prod.snd) := by
  match tokens with
  | [] => rfl
  | (_, .text c) :: _ => rfl
  | (_, .field other n) :: _ =>
    simp only [addAtom, List.map_cons, joinField]
    split <;> rfl

end Token

/-! ## The AM/PM letter -/

namespace Marker

theorem findIn_cons (quoted : Bool) (c : Char) (rest : List Char) :
    findIn quoted (c :: rest) =
      if toggle quoted c = false ∧ c = amPmLetter then some 0
      else (findIn (toggle quoted c) rest).map (· + 1) := by
  show (if (!toggle quoted c && decide (c = amPmLetter)) = true then some 0 else _) = _
  simp only [Bool.and_eq_true, Bool.not_eq_true', decide_eq_true_eq]
  rfl

theorem findIn_cons_eq_none {quoted : Bool} {c : Char} {rest : List Char}
    (h : findIn quoted (c :: rest) = none) :
    ¬(toggle quoted c = false ∧ c = amPmLetter) ∧ findIn (toggle quoted c) rest = none := by
  rw [findIn_cons] at h
  split at h
  · cases h
  · next hnot => exact ⟨hnot, Option.map_eq_none_iff.1 h⟩

/-- The letter that the scan finds stands outside quotations, and it is the first. -/
theorem findIn_eq_some {quoted : Bool} {text : List Char} {i : Nat}
    (h : findIn quoted text = some i) :
    text = text.take i ++ amPmLetter :: text.drop (i + 1) ∧
      quotedAfter quoted (text.take i) = false ∧ findIn quoted (text.take i) = none := by
  induction text generalizing quoted i with
  | nil => cases h
  | cons c rest ih =>
    rw [findIn_cons] at h
    split at h
    · next hfound =>
      obtain rfl := Option.some.inj h
      obtain ⟨hquoted, rfl⟩ := hfound
      exact ⟨rfl, hquoted, rfl⟩
    · next hnot =>
      obtain ⟨j, hj, rfl⟩ := Option.map_eq_some_iff.1 h
      obtain ⟨htext, hafter, hnone⟩ := ih hj
      refine ⟨congrArg (c :: ·) htext, hafter, ?_⟩
      rw [List.take_succ_cons, findIn_cons, if_neg hnot, hnone]
      rfl

/-- Where the scan finds no AM/PM letter, no atom is an AM/PM field. -/
theorem ne_field_of_findIn (held : Option (List (Nat × Atom))) (start : Nat) (u : List Char) :
    findIn held.isSome u = none →
      (∀ said ∈ held, ∀ a ∈ said, a.2 ≠ .field amPmLetter) →
        ∀ a ∈ Atom.scan held (Mark.readFrom start u), a.2 ≠ .field amPmLetter := by
  fun_induction Mark.readFrom start u generalizing held with
  | case1 =>
    intro _ _ a ha
    cases ha
  | case2 start rest ih =>
    intro h hheld
    -- The pair toggles twice, so that the rest is searched in the same state
    have hrest : findIn held.isSome rest = none := by
      have htwice := (findIn_cons_eq_none (findIn_cons_eq_none h).2).2
      simpa [toggle] using htwice
    cases held with
    | none =>
      rw [Atom.scan, if_neg Mark.noConfusion, List.forall_mem_cons]
      exact ⟨Atom.noConfusion, ih _ hrest hheld⟩
    | some said =>
      rw [Atom.scan, if_neg Mark.noConfusion]
      refine ih _ hrest fun said' hsaid => ?_
      obtain rfl := Option.some.inj hsaid
      rw [List.forall_mem_cons]
      exact ⟨Atom.noConfusion, hheld said rfl⟩
  | case3 start first rest hpair mark ih =>
    intro h hheld
    obtain ⟨hfirst, hrest⟩ := findIn_cons_eq_none h
    show ∀ a ∈ Atom.scan held ((start, Mark.of first) :: Mark.readFrom (start + 1) rest), _
    by_cases hquote : first = '\''
    · -- A quotation opens with nothing said, or closes and gives what it held
      rw [toggle, if_pos hquote] at hrest
      have hmark : Mark.of first = .quote := if_pos hquote
      rw [hmark]
      cases held with
      | none =>
        rw [Atom.scan, if_pos rfl]
        refine ih _ hrest fun said hsaid => ?_
        obtain rfl := Option.some.inj hsaid
        intro a ha
        cases ha
      | some said =>
        rw [Atom.scan, if_pos rfl, List.forall_mem_append]
        exact ⟨fun a ha => hheld said rfl a (List.mem_reverse.1 ha),
          ih _ hrest fun said' hsaid => absurd hsaid (Option.not_mem_none said')⟩
    · -- Outside quotations the search would have found the letter; inside, all is text
      rw [toggle, if_neg hquote] at hfirst hrest
      have hmark := Mark.of_ne_quote hquote
      cases held with
      | none =>
        rw [Atom.scan, if_neg hmark, List.forall_mem_cons]
        exact ⟨fun hfield => hfirst ⟨rfl, Atom.eq_of_unquoted_of hfield⟩, ih _ hrest hheld⟩
      | some said =>
        rw [Atom.scan, if_neg hmark]
        refine ih _ hrest fun said' hsaid => ?_
        obtain rfl := Option.some.inj hsaid
        rw [List.forall_mem_cons]
        exact ⟨Atom.quoted_ne_field _ _, hheld said rfl⟩

/-- Where the search finds nothing in a pattern, no atom of it is an AM/PM field. -/
theorem ne_field_of_find? {u : List Char} (h : find? u = none) :
    ∀ a ∈ Atom.scan none (Mark.readFrom 0 u), a.2 ≠ .field amPmLetter :=
  ne_field_of_findIn none 0 u h fun said hsaid => absurd hsaid (Option.not_mem_none said)

end Marker

/-! ## Patterns -/

namespace Pattern

open Marker

/-- A pattern that starts at a later offset has the same tokens, moved by it. -/
theorem group_scan_readFrom (start : Nat) (u : List Char) :
    Token.group (Atom.scan none (Mark.readFrom start u)) =
      (Token.ofPattern u).map (Prod.map (· + start) id) := by
  have hmarks := Mark.readFrom_add 0 start u
  have hatoms : Atom.scan none ((Mark.readFrom 0 u).map (Prod.map (· + start) id)) =
      (Atom.scan none (Mark.readFrom 0 u)).map (Prod.map (· + start) id) :=
    Atom.scan_map (· + start) none (Mark.readFrom 0 u)
  rw [Nat.zero_add] at hmarks
  rw [hmarks, hatoms, Token.group_map]
  rfl

theorem map_snd_map_add (start : Nat) (tokens : List (Nat × Token)) :
    (tokens.map (Prod.map (· + start) id)).map Prod.snd = tokens.map Prod.snd := by
  rw [List.map_map]
  rfl

/-- The tokens do not depend on the offset that a pattern starts at. -/
theorem tokens_readFrom (start : Nat) (u : List Char) :
    (Token.group (Atom.scan none (Mark.readFrom start u))).map Prod.snd = tokensOf u := by
  rw [group_scan_readFrom, map_snd_map_add]
  rfl

/-- The tokens, with their offsets, of a pattern that is cut before a character outside
quotations, which does not go on a field. -/
theorem ofPattern_append_cons {u : List Char} {c : Char} (v : List Char) (hc : c ≠ '\'')
    (hu : quotedAfter false u = false)
    (hcut : ∀ letter, Atom.unquoted (Mark.of c) = .field letter →
      ∀ a ∈ Atom.scan none (Mark.readFrom 0 u), a.2 ≠ .field letter) :
    Token.ofPattern (u ++ c :: v) =
      Token.ofPattern u ++ (Token.ofPattern (c :: v)).map (Prod.map (· + u.length) id) := by
  have hhead (start : Nat) : Atom.scan none (Mark.readFrom start (c :: v)) =
      (start, Atom.unquoted (Mark.of c)) :: Atom.scan none (Mark.readFrom (start + 1) v) := by
    rw [Mark.readFrom_cons start fun h => absurd h hc, Atom.scan, if_neg (Mark.of_ne_quote hc)]
  have hatoms := Atom.scan_readFrom_append 0 v hc hu
  have hgroup := Token.group_append (Atom.scan none (Mark.readFrom 0 u))
    (Atom.scan none (Mark.readFrom (0 + u.length) (c :: v))) (by
      -- A field in front of the second part is one of `c`'s letter
      intro letter place length rest hfirst
      rw [hhead] at hfirst
      exact hcut letter (Token.eq_field_of_addAtom hfirst))
  rw [← hatoms, Nat.zero_add, group_scan_readFrom u.length] at hgroup
  exact hgroup

/-- The tokens of a pattern that is cut before a character outside quotations, which does
not go on a field. -/
theorem tokensOf_append_cons {u : List Char} {c : Char} (v : List Char) (hc : c ≠ '\'')
    (hu : quotedAfter false u = false)
    (hcut : ∀ letter, Atom.unquoted (Mark.of c) = .field letter →
      ∀ a ∈ Atom.scan none (Mark.readFrom 0 u), a.2 ≠ .field letter) :
    tokensOf (u ++ c :: v) = tokensOf u ++ tokensOf (c :: v) := by
  rw [tokensOf, ofPattern_append_cons v hc hu hcut, List.map_append, map_snd_map_add]
  rfl

/-- A character of text in front. -/
theorem tokensOf_cons_text {c said : Char} (hc : c ≠ '\'')
    (h : Atom.unquoted (Mark.of c) = .text said) (v : List Char) :
    tokensOf (c :: v) = .text said :: tokensOf v := by
  rw [← tokens_readFrom 0 (c :: v), Mark.readFrom_cons 0 fun h => absurd h hc, Atom.scan,
    if_neg (Mark.of_ne_quote hc), h, ← tokens_readFrom (0 + 1) v]
  rfl

/-- A field letter in front is put before the tokens, which move by one. -/
theorem ofPattern_cons_field {c letter : Char} (hc : c ≠ '\'')
    (h : Atom.unquoted (Mark.of c) = .field letter) (v : List Char) :
    Token.ofPattern (c :: v) =
      Token.addAtom (0, .field letter) ((Token.ofPattern v).map (Prod.map (· + 1) id)) := by
  rw [Token.ofPattern, Mark.ofPattern, Mark.readFrom_cons 0 fun h => absurd h hc, Atom.scan,
    if_neg (Mark.of_ne_quote hc), h, ← group_scan_readFrom]
  rfl

/-- A field letter in front. -/
theorem tokensOf_cons_field {c letter : Char} (hc : c ≠ '\'')
    (h : Atom.unquoted (Mark.of c) = .field letter) (v : List Char) :
    tokensOf (c :: v) = Token.joinField letter (tokensOf v) := by
  rw [tokensOf, ofPattern_cons_field hc h, Token.map_addAtom_field, map_snd_map_add]
  rfl

/-! ### Compiling and writing -/

/-- The check looks at one token after the other. -/
theorem check_append_eq_ok_iff (a b : List Token) :
    check (a ++ b) = .ok () ↔ check a = .ok () ∧ check b = .ok () := by
  induction a with
  | nil => simp [check]
  | cons t rest ih =>
    cases t with
    | text c => exact ih
    | field letter length =>
      rw [List.cons_append, check, check]
      split
      · exact ih
      · simp

/-- A pattern compiles to its tokens, if their lengths are allowed. -/
theorem compile_eq_ok_iff {pattern : List Char} {p : Pattern} :
    compile pattern = .ok p ↔ check (tokensOf pattern) = .ok () ∧ p = ⟨tokensOf pattern⟩ := by
  rw [compile]
  cases check (tokensOf pattern) with
  | error e => simp
  | ok u => simp [eq_comm]

theorem writeText_of_check {pattern : List Char} (h : check (tokensOf pattern) = .ok ())
    (locale : Locale) (instant : Instant) :
    writeText pattern locale instant = writeTokens locale instant (tokensOf pattern) := by
  rw [writeText, compile_eq_ok_iff.2 ⟨h, rfl⟩]
  rfl

end Pattern

end ClockFace

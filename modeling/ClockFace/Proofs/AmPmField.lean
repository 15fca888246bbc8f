import ClockFace.Proofs.MarkerInject
import ClockFace.Proofs.PatternText
import Mathlib.Data.List.TakeWhile

/-! # The first AM/PM field

The AM/PM field is looked for without reading the pattern: the search counts every apostrophe as one
that opens or closes a quotation. Reading pairs the apostrophes first. The search finds the first
AM/PM field that reading gives, at its offset, because a pair of apostrophes toggles a quotation
twice and holds no letter in between.

Where nothing is found, no atom is an AM/PM field, and so no token is. Where a letter is found, the
pattern is cut before it and behind the run of letters that it begins, and each part is read on
its own.

## Key results

- `Token.ofPattern_replicate_append`: a run of one field letter is one field
- `Marker.ofPattern_of_find?`: the tokens of a pattern around its first AM/PM field
- `Marker.find?_eq_find?_isAmPm`: the search finds the first AM/PM field
-/

namespace ClockFace

namespace Token

/-! ## Fields -/

/-- The token is an AM/PM field. -/
def isAmPm : Token → Bool
  | .text _ => false
  | .field letter _ => letter = Marker.amPmLetter

/-- A field letter in front of the tokens makes no field of another letter. -/
theorem ne_field_of_mem_addAtom {α : Type} {place : α} {letter other : Char} (hne : other ≠ letter)
    {tokens : List (α × Token)} (h : ∀ t ∈ tokens, ∀ n, t.2 ≠ .field letter n) :
    ∀ t ∈ addAtom (place, .field other) tokens, ∀ n, t.2 ≠ .field letter n := by
  have hother (m n : Nat) : Token.field other m ≠ .field letter n :=
    fun heq => hne (Token.field.inj heq).1
  match tokens with
  | [] => exact List.forall_mem_cons.2 ⟨hother 1, h⟩
  | (_, .text _) :: _ => exact List.forall_mem_cons.2 ⟨hother 1, h⟩
  | (_, .field next m) :: more =>
    rw [addAtom]
    split
    · -- The field in front grows, and the others stay
      exact List.forall_mem_cons.2 ⟨hother (m + 1), (List.forall_mem_cons.1 h).2⟩
    · exact List.forall_mem_cons.2 ⟨hother 1, h⟩

/-- Without an atom that is the field of a letter, no token is one. -/
theorem ne_field_of_mem_group {α : Type} {letter : Char} {atoms : List (α × Atom)}
    (h : ∀ a ∈ atoms, a.2 ≠ .field letter) :
    ∀ t ∈ group atoms, ∀ n, t.2 ≠ .field letter n := by
  induction atoms with
  | nil => exact List.forall_mem_nil _
  | cons a rest ih =>
    rw [List.forall_mem_cons] at h
    obtain ⟨place, atom⟩ := a
    show ∀ t ∈ addAtom (place, atom) (group rest), _
    cases atom with
    | text c => exact List.forall_mem_cons.2 ⟨fun n => Token.noConfusion, ih h.2⟩
    | field other =>
      have hne : other ≠ letter := fun heq => h.1 (congrArg Atom.field heq)
      exact ne_field_of_mem_addAtom hne (ih h.2)

/-! ## Runs of a field letter -/

/-- A field letter joins no token behind it unless the letter itself follows. -/
theorem addAtom_of_head? {letter : Char} {v : List Char} (hv : v.head? ≠ some letter)
    (place start : Nat) :
    addAtom (place, .field letter) ((ofPattern v).map (Prod.map (· + start) id)) =
      (place, .field letter 1) :: (ofPattern v).map (Prod.map (· + start) id) := by
  cases htokens : ofPattern v with
  | nil => rfl
  | cons t rest =>
    obtain ⟨next, token⟩ := t
    cases token with
    | text c => rfl
    | field other n =>
      have hne : letter ≠ other := by
        rintro rfl
        exact hv (Pattern.head?_of_tokensOf (congrArg (List.map Prod.snd) htokens))
      exact if_neg hne

/-- A run of one field letter is one field, and what follows is read on its own. -/
theorem ofPattern_replicate_append {letter : Char} (hquote : letter ≠ '\'')
    (h : Atom.unquoted (Mark.of letter) = .field letter) (n : Nat) {v : List Char}
    (hv : v.head? ≠ some letter) :
    ofPattern (List.replicate (n + 1) letter ++ v) =
      (0, .field letter (n + 1)) :: (ofPattern v).map (Prod.map (· + (n + 1)) id) := by
  induction n with
  | zero =>
    rw [List.replicate_one, List.singleton_append, Pattern.ofPattern_cons_field hquote h,
      addAtom_of_head? hv]
  | succ n ih =>
    -- The letter in front joins the field of the others
    rw [List.replicate_succ, List.cons_append, Pattern.ofPattern_cons_field hquote h, ih,
      List.map_cons, List.map_map]
    exact if_pos rfl

end Token

namespace Marker

/-! ## Searching and reading -/

/-- Where the search finds nothing, no token is an AM/PM field. -/
theorem find?_isAmPm_eq_none {u : List Char} (h : find? u = none) :
    (Token.ofPattern u).find? (·.2.isAmPm) = none := by
  refine List.find?_eq_none.2 fun t ht hamPm => ?_
  obtain ⟨place, token⟩ := t
  have hne := Token.ne_field_of_mem_group (ne_field_of_find? h) _ ht
  cases token with
  | text c => cases hamPm
  | field letter n => exact hne n (congrArg (Token.field · n) (of_decide_eq_true hamPm))

/-- The letter that the search finds stands at its offset. -/
theorem drop_of_find? {p : List Char} {i : Nat} (h : find? p = some i) :
    (p.take i).length = i ∧ p.drop i = amPmLetter :: p.drop (i + 1) := by
  have htext := (findIn_eq_some h).1
  have hlength : (p.take i).length = i := by
    have hsum := congrArg List.length htext
    rw [List.length_append, List.length_cons, List.length_take, List.length_drop] at hsum
    rw [List.length_take]
    omega
  refine ⟨hlength, ?_⟩
  conv => lhs; rw [htext]
  exact List.drop_left' hlength

/-- A text with a letter in front is a run of the letter, and then something else. -/
theorem exists_replicate_append (letter : Char) (rest : List Char) :
    ∃ n v, letter :: rest = List.replicate (n + 1) letter ++ v ∧ v.head? ≠ some letter := by
  have hrun : rest.takeWhile (· = letter) =
      List.replicate (rest.takeWhile (· = letter)).length letter :=
    List.eq_replicate_of_mem fun c hc => by simpa using List.mem_takeWhile_imp hc
  refine ⟨(rest.takeWhile (· = letter)).length, rest.dropWhile (· = letter), ?_, fun hhead => ?_⟩
  · rw [List.replicate_succ, ← hrun, List.cons_append, List.takeWhile_append_dropWhile]
  · have hstop := List.head?_dropWhile_not (· = letter) rest
    rw [hhead] at hstop
    simp at hstop

/-- The pattern is cut before the letter that the search finds: no quotation is open there, and no
AM/PM field comes before that the letter could go on. -/
theorem ofPattern_take_append {p : List Char} {i : Nat} (h : find? p = some i) :
    Token.ofPattern p =
      Token.ofPattern (p.take i) ++ (Token.ofPattern (p.drop i)).map (Prod.map (· + i) id) := by
  obtain ⟨htext, hquoted, hfirst⟩ := findIn_eq_some h
  obtain ⟨hlength, hdrop⟩ := drop_of_find? h
  have hquote : amPmLetter ≠ '\'' := by decide
  have hcut := Pattern.ofPattern_append_cons (p.drop (i + 1)) hquote hquoted
    fun letter hletter => by
      rw [FieldSplit.unquoted_amPmLetter] at hletter
      obtain rfl := Atom.field.inj hletter
      exact ne_field_of_find? hfirst
  rwa [← htext, hlength, ← hdrop] at hcut

/-- The tokens of a pattern around the letter that the search finds: those of the pattern up to the
letter, then the field of the letters that stand there in a row, then those of the rest of the
pattern. -/
theorem ofPattern_of_find? {p : List Char} {i : Nat} (h : find? p = some i) :
    ∃ n, 0 < n ∧ (p.drop i).take n = List.replicate n amPmLetter ∧
      Token.ofPattern p = Token.ofPattern (p.take i) ++ (i, .field amPmLetter n) ::
        (Token.ofPattern (p.drop (i + n))).map (Prod.map (· + (i + n)) id) := by
  obtain ⟨n, v, hrun, hv⟩ := exists_replicate_append amPmLetter (p.drop (i + 1))
  have hdrop : p.drop i = List.replicate (n + 1) amPmLetter ++ v := (drop_of_find? h).2.trans hrun
  have hbehind : p.drop (i + (n + 1)) = v := by
    rw [← List.drop_drop, hdrop]
    exact List.drop_left' List.length_replicate
  refine ⟨n + 1, n.succ_pos, ?_, ?_⟩
  · rw [hdrop]
    exact List.take_left' List.length_replicate
  · -- Behind the cut, the run is read first, and then the rest
    have hmove : Prod.map (· + i) id ∘ Prod.map (· + (n + 1)) id =
        Prod.map (· + (i + (n + 1))) (id : Token → Token) := by
      funext t
      have hplace : t.1 + (n + 1) + i = t.1 + (i + (n + 1)) := by omega
      exact Prod.ext hplace rfl
    rw [ofPattern_take_append h, hbehind, hdrop,
      Token.ofPattern_replicate_append (by decide) FieldSplit.unquoted_amPmLetter n hv,
      List.map_cons, List.map_map, hmove, Prod.map_apply, Nat.zero_add, id]

/-- The search for the AM/PM field finds the first one that reading the pattern gives. It finds the
offset of that field, and it finds nothing exactly if there is no such field.

The offset is the place of the field in the pattern: some AM/PM letters in a row stand there, the
tokens before the field are those of the pattern up to it, and the tokens behind are those of what
follows the letters. -/
theorem find?_eq_find?_isAmPm (p : List Char) :
    find? p = ((Token.ofPattern p).find? (·.2.isAmPm)).map Prod.fst ∧
      (find? p = none ↔ ∀ t ∈ Token.ofPattern p, t.2.isAmPm = false) ∧
      ∀ i, find? p = some i → ∃ n, 0 < n ∧ (p.drop i).take n = List.replicate n amPmLetter ∧
        Token.ofPattern p = Token.ofPattern (p.take i) ++ (i, .field amPmLetter n) ::
          (Token.ofPattern (p.drop (i + n))).map (Prod.map (· + (i + n)) id) := by
  have hfirst : find? p = ((Token.ofPattern p).find? (·.2.isAmPm)).map Prod.fst := by
    cases h : find? p with
    | none => rw [find?_isAmPm_eq_none h, Option.map_none]
    | some i =>
      obtain ⟨n, -, -, htokens⟩ := ofPattern_of_find? h
      -- The search has found nothing in front, so that no AM/PM field comes before
      have hbefore : find? (p.take i) = none := (findIn_eq_some h).2.2
      rw [htokens, List.find?_append, find?_isAmPm_eq_none hbefore, Option.none_or,
        List.find?_cons_of_pos rfl, Option.map_some]
  refine ⟨hfirst, ?_, fun i => ofPattern_of_find?⟩
  rw [hfirst, Option.map_eq_none_iff, List.find?_eq_none]
  simp only [Bool.not_eq_true]

/-- Of three apostrophes inside a quotation, the first two are a pair and the third closes it. The
field of three letters stands between two pairs, and the last letter in a quotation that is left
open. -/
theorem find?_eq_find?_isAmPm_apostrophes :
    let p := "\x00'a'''h'' aaa'' 'a".toList
    find? p = some 10 ∧
      (Token.ofPattern p).find? (·.2.isAmPm) = some (10, .field amPmLetter 3) ∧
      ∃ n, 0 < n ∧ (p.drop 10).take n = List.replicate n amPmLetter ∧
        Token.ofPattern p = Token.ofPattern (p.take 10) ++ (10, .field amPmLetter n) ::
          (Token.ofPattern (p.drop (10 + n))).map (Prod.map (· + (10 + n)) id) := by
  intro p
  have hfind : find? p = some 10 := rfl
  exact ⟨hfind, rfl, (find?_eq_find?_isAmPm p).2.2 10 hfind⟩

end Marker

end ClockFace

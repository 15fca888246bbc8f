/-! # Kept characters

The characters of a text at the offsets that a test admits, in their order. The text may be a
part of a longer one: `first` is the offset of its first character there.

## Key results

- `kept_append`, `kept_split`: a text cut in two
- `kept_eq_self_iff`, `kept_eq_nil_iff`: when all is kept, and when nothing is
- `length_kept`, `getElem?_kept`: how many are kept, and where a kept character stands
-/

namespace ClockFace.Text

/-- The characters at the offsets that pass the test. -/
def kept (keep : Nat → Bool) (first : Nat) (text : List Char) : List Char :=
  ((text.zipIdx first).filter fun c => keep c.2).map Prod.fst

variable {keep other : Nat → Bool}

@[simp] theorem kept_nil (keep : Nat → Bool) (first : Nat) : kept keep first [] = [] := rfl

theorem kept_cons (keep : Nat → Bool) (first : Nat) (c : Char) (rest : List Char) :
    kept keep first (c :: rest) =
      if keep first then c :: kept keep (first + 1) rest else kept keep (first + 1) rest := by
  simp only [kept, List.zipIdx_cons, List.filter_cons]
  split <;> rfl

theorem kept_append (keep : Nat → Bool) (first : Nat) (text rest : List Char) :
    kept keep first (text ++ rest) =
      kept keep first text ++ kept keep (first + text.length) rest := by
  simp only [kept, List.zipIdx_append, List.filter_append, List.map_append]

/-- A text cut at an offset, which may lie behind its end. -/
theorem kept_split (keep : Nat → Bool) (first n : Nat) (text : List Char) :
    kept keep first text =
      kept keep first (text.take n) ++ kept keep (first + n) (text.drop n) := by
  conv => lhs; rw [← List.take_append_drop n text]
  rw [kept_append]
  obtain hlt | hle := Nat.lt_or_ge text.length n
  · rw [List.drop_eq_nil_of_le (Nat.le_of_lt hlt)]
    rfl
  · rw [List.length_take_of_le hle]

/-- Two tests keep the same characters of texts at whose offsets they agree. -/
theorem kept_congr {first second : Nat} {text : List Char}
    (h : ∀ k < text.length, keep (first + k) = other (second + k)) :
    kept keep first text = kept other second text := by
  induction text generalizing first second with
  | nil => rfl
  | cons c rest ih =>
    have hhead : keep first = other second := h 0 (Nat.zero_lt_succ _)
    have hrest : kept keep (first + 1) rest = kept other (second + 1) rest := by
      refine ih fun k hk => ?_
      rw [Nat.add_right_comm, Nat.add_right_comm second]
      exact h (k + 1) (Nat.succ_lt_succ hk)
    rw [kept_cons, kept_cons, hhead, hrest]

theorem kept_sublist (keep : Nat → Bool) (first : Nat) (text : List Char) :
    (kept keep first text).Sublist text := by
  have hsub := (List.filter_sublist (p := fun c => keep c.2) (l := text.zipIdx first)).map Prod.fst
  rwa [List.zipIdx_map_fst] at hsub

/-- All characters are kept exactly if all offsets pass the test. -/
theorem kept_eq_self_iff {first : Nat} {text : List Char} :
    kept keep first text = text ↔ ∀ k < text.length, keep (first + k) = true := by
  induction text generalizing first with
  | nil => simp
  | cons c rest ih =>
    have hlength := (kept_sublist keep (first + 1) rest).length_le
    rw [kept_cons, List.length_cons, Nat.forall_lt_succ_left]
    simp only [Nat.add_zero, ← Nat.add_assoc, Nat.add_right_comm first _ 1]
    split
    · next hhead => rw [List.cons.injEq, ih, hhead]; simp
    · next hhead =>
      refine iff_of_false (fun heq => ?_) fun h => hhead h.1
      -- The first character is missing, and the others cannot make up for it
      rw [heq, List.length_cons] at hlength
      exact Nat.not_succ_le_self _ hlength

/-- Nothing is kept exactly if no offset passes the test. -/
theorem kept_eq_nil_iff {first : Nat} {text : List Char} :
    kept keep first text = [] ↔ ∀ k < text.length, keep (first + k) = false := by
  induction text generalizing first with
  | nil => simp
  | cons c rest ih =>
    rw [kept_cons, List.length_cons, Nat.forall_lt_succ_left]
    simp only [Nat.add_zero, ← Nat.add_assoc, Nat.add_right_comm first _ 1]
    split
    · next hhead => simp [hhead]
    · next hhead => rw [ih, Bool.eq_false_iff.2 hhead]; simp

/-- As many characters are kept as offsets pass the test. -/
theorem length_kept (keep : Nat → Bool) (first : Nat) (text : List Char) :
    (kept keep first text).length = (List.range' first text.length).countP keep := by
  rw [kept, List.length_map, ← List.countP_eq_length_filter, ← List.zipIdx_map_snd,
    List.countP_map]
  rfl

/-- A character that is kept stands behind those that are kept in front of it. -/
theorem getElem?_kept {text : List Char} {k : Nat} (hk : k < text.length)
    (hkeep : keep k = true) :
    (kept keep 0 text)[(List.range k).countP keep]? = text[k]? := by
  have hfront : (kept keep 0 (text.take k)).length = (List.range k).countP keep := by
    rw [length_kept, List.length_take_of_le (Nat.le_of_lt hk), List.range_eq_range']
  rw [kept_split keep 0 k, ← hfront, List.getElem?_append_right (Nat.le_refl _), Nat.sub_self,
    Nat.zero_add, List.drop_eq_getElem_cons hk, kept_cons, if_pos hkeep,
    List.getElem?_cons_zero, List.getElem?_eq_getElem hk]

end ClockFace.Text

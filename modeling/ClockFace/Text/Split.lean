/-! # Splitting texts

Cutting a text at every occurrence of a character. `join_split` says that nothing but the cuts is
lost. -/

namespace ClockFace.Text

/-- The pieces of a text between the occurrences of `separator`; there is always one. -/
def split (separator : Char) : List Char → List (List Char)
  | [] => [[]]
  | c :: rest =>
    if c = separator then [] :: split separator rest
    else match split separator rest with
      | [] => [[c]]
      | piece :: more => (c :: piece) :: more

theorem split_ne_nil (separator : Char) (s : List Char) : split separator s ≠ [] := by
  cases s with
  | nil => simp [split]
  | cons c rest => simp only [split]; split <;> (try split) <;> simp

/-- Joining the pieces gives the text back. -/
theorem join_split (separator : Char) (s : List Char) :
    List.intercalate [separator] (split separator s) = s := by
  induction s with
  | nil => rfl
  | cons c rest ih =>
    simp only [split]
    split
    · next h =>
      subst h
      cases hp : split c rest with
      | nil => exact absurd hp (split_ne_nil c rest)
      | cons piece more => rw [hp] at ih; simpa [List.intercalate, List.intersperse] using ih
    · cases hp : split separator rest with
      | nil => exact absurd hp (split_ne_nil separator rest)
      | cons piece more =>
        rw [hp] at ih
        cases more <;> simp_all [List.intercalate, List.intersperse]

/-- The text before the first occurrence of a character and the text after it; all of the text and
nothing if there is none. -/
def cut (separator : Char) (s : List Char) : List Char × List Char :=
  (s.takeWhile (· != separator), (s.dropWhile (· != separator)).tail)

end ClockFace.Text

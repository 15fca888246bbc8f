import ClockFace.Environment.File

/-! # References to variables

A value may refer to variables by a dollar sign and a name in braces, optionally with a text to use
if the variable is not set. Names are looked up in the assignments before and then in the process
environment, and what they stand for is not looked through again. -/

namespace ClockFace

/-- A reference to a variable: its name, and the text to use if it is not set. -/
structure Reference where
  name : List Char
  otherwise : Option (List Char)
  deriving DecidableEq, Repr

namespace Reference

/-- The character that opens a reference, after a dollar sign. -/
def openBrace : Char := '\x7b'

/-- The character that closes a reference. -/
def closeBrace : Char := '\x7d'

/-- The reference whose name the text begins with, and the text after it. -/
def read? (s : List Char) : Option (Reference × List Char) :=
  let name := s.takeWhile fun c => c != closeBrace && c != ':'
  match s.drop name.length with
  | ':' :: '-' :: rest =>
    let otherwise := rest.takeWhile (· != closeBrace)
    match rest.drop otherwise.length with
    | _ :: after => some (⟨name, some otherwise⟩, after)
    | [] => none
  | c :: after => if c = closeBrace then some (⟨name, none⟩, after) else none
  | [] => none

theorem length_of_read? {s after : List Char} {r : Reference} (h : read? s = some (r, after)) :
    after.length < s.length := by
  have dropped : ∀ (p : Char → Bool) (t : List Char),
      (t.drop (t.takeWhile p).length).length ≤ t.length := by
    intro p t; simp
  unfold read? at h
  have outer := dropped (fun c => c != closeBrace && c != ':') s
  simp only at h
  split at h
  · next rest hs =>
    have inner := dropped (· != closeBrace) rest
    rw [hs] at outer
    split at h
    · next hr =>
      rw [hr] at inner
      cases h
      simp only [List.length_cons] at outer inner
      omega
    · cases h
  · next c rest _ hs =>
    rw [hs] at outer
    split at h
    · cases h
      simp only [List.length_cons] at outer
      omega
    · cases h
  · cases h

/-- The text with its references replaced. -/
def expand (meaning : Reference → List Char) (s : List Char) : List Char :=
  match s with
  | [] => []
  | c :: rest =>
    if c = '$' && rest.head? = some openBrace then
      match _h : read? rest.tail with
      | some (r, after) => meaning r ++ expand meaning after
      | none => c :: expand meaning rest
    else c :: expand meaning rest
termination_by s.length
decreasing_by
  all_goals simp_wf
  have := length_of_read? _h
  have : rest.tail.length ≤ rest.length := by simp
  omega

end Reference

namespace Binding

/-- The value of a name in assignments, the last of which counts; a name without a value counts as
empty. -/
def lookUp? (bindings : List Binding) (name : List Char) : Option (List Char) :=
  (bindings.reverse.find? (·.name == name)).map fun b => b.value.getD []

/-- What a reference stands for, after some assignments and in a process environment. -/
def meaning (earlier : List Binding) (process : List Char → Option (List Char)) (r : Reference) :
    List Char :=
  ((lookUp? earlier r.name <|> process r.name) <|> r.otherwise).getD []

/-- The assignments with the references in their values replaced, after some that already are. -/
def expandAfter (process : List Char → Option (List Char)) (earlier : List Binding) :
    List Binding → List Binding
  | [] => earlier
  | b :: rest =>
    let value := b.value.map (Reference.expand (meaning earlier process))
    expandAfter process (earlier ++ [⟨b.name, value⟩]) rest

/-- The assignments with the references in their values replaced, in order. -/
def expandAll (process : List Char → Option (List Char)) (bindings : List Binding) : List Binding :=
  expandAfter process [] bindings

end Binding

end ClockFace

import ClockFace.Face.Basic
import ClockFace.Styled.Markup

/-! # Faces as styled texts

A terminal cannot change the size of characters, so runs below the base size get a style instead.
Runs to be left out are deleted, from the last one to the first, so that the offsets of those still
to come hold. -/

namespace ClockFace.Face

/-- The deletions of a face, those that start last first; those with one start stay in order. -/
def deletions (f : Face) : List Span :=
  (f.spans.filter (·.action == .delete)).mergeSort fun a b => b.start ≤ a.start

/-- The text of a face with a style on the runs below the base size. -/
def styleSmall (f : Face) (smallStyle baseStyle : String) : StyledText :=
  (f.spans.filter (·.action.shrinks)).foldl
    (fun t s => t.stylize smallStyle s.start s.stop) (StyledText.ofText f.text baseStyle)

/-- A face as a styled text. -/
def styled (f : Face) (smallStyle baseStyle : String) : StyledText :=
  f.deletions.foldl (fun t s => t.delete s.start s.stop) (f.styleSmall smallStyle baseStyle)

/-- A face as markup. -/
def markup (f : Face) (smallStyle : String) : List Char :=
  Markup.write (f.styled smallStyle "")

end ClockFace.Face

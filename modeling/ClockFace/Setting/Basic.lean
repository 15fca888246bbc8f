import ClockFace.Value

/-! # Settings

The choices that a display offers. Each choice has the name that it is written with; `ofName?` finds
a choice by its name. -/

namespace ClockFace

/-- How the AM/PM run of the time is shown. -/
inductive Emphasis where
  /-- Left out, together with the blanks before it. -/
  | none
  /-- At a smaller size. -/
  | small
  /-- As it is. -/
  | normal
  deriving DecidableEq, Repr, Inhabited

/-- Whether the date is shown, and at which size. -/
inductive DateVisibility where
  | none
  | small
  | normal
  deriving DecidableEq, Repr, Inhabited

/-- The case that the date is shown in. -/
inductive DateCase where
  | asIs
  | lower
  | upper
  deriving DecidableEq, Repr, Inhabited

/-- The side of the time that the date is shown on. -/
inductive DatePosition where
  | left
  | right
  deriving DecidableEq, Repr, Inhabited

/-- The place of the clock in the status bar. -/
inductive Placement where
  | right
  | center
  | left
  deriving DecidableEq, Repr, Inhabited

/-- A setting whose values have names. `options` lists them in the order of messages, and a name
finds the value that it belongs to. -/
class Choice (α : Type) where
  options : List (String × α)
  name : α → String
  lookup_name : ∀ a, options.lookup (name a) = some a

namespace Choice

/-- The names of the values of a setting. -/
def names (α : Type) [Choice α] : List String :=
  (options : List (String × α)).map Prod.fst

/-- The value with a name. -/
def ofName? {α : Type} [Choice α] (name : String) : Option α :=
  (options : List (String × α)).lookup name

@[simp] theorem ofName?_name {α : Type} [Choice α] (a : α) : ofName? (name a) = some a :=
  lookup_name a

end Choice

instance : Choice Emphasis where
  options := [("none", .none), ("small", .small), ("normal", .normal)]
  name
    | .none => "none"
    | .small => "small"
    | .normal => "normal"
  lookup_name a := by cases a <;> decide

instance : Choice DateVisibility where
  options := [("none", .none), ("small", .small), ("normal", .normal)]
  name
    | .none => "none"
    | .small => "small"
    | .normal => "normal"
  lookup_name a := by cases a <;> decide

instance : Choice DateCase where
  options := [("as_is", .asIs), ("lower", .lower), ("upper", .upper)]
  name
    | .asIs => "as_is"
    | .lower => "lower"
    | .upper => "upper"
  lookup_name a := by cases a <;> decide

instance : Choice DatePosition where
  options := [("left", .left), ("right", .right)]
  name
    | .left => "left"
    | .right => "right"
  lookup_name a := by cases a <;> decide

instance : Choice Placement where
  options := [("right", .right), ("center", .center), ("left", .left)]
  name
    | .right => "right"
    | .center => "center"
    | .left => "left"
  lookup_name a := by cases a <;> decide

/-- A choice that may not have been checked: one of the choices, or some other value. -/
inductive Given (α : Type) where
  | known (choice : α)
  | unknown (value : Value)
  deriving Repr

end ClockFace

import ClockFace.Number.Decimal
import ClockFace.Text.Quoted

/-! # Unchecked values

Settings arrive as values of any shape before they are checked. A value knows whether it counts as
set (`isTrue`) and how messages show it: `display` shows a text as it is, `quoted` shows it between
quotes, and both agree on every other value. -/

namespace ClockFace

open Number

/-- A value whose shape is not known beforehand. -/
inductive Value where
  | null
  | bool (b : Bool)
  | int (n : Int)
  | real (d : Decimal)
  /-- A real that is not a number. -/
  | notNumber
  | text (s : String)
  | list (items : List Value)
  | object (fields : List (String × Value))
  deriving BEq, Repr, Inhabited

namespace Value

/-- The value counts as set: it is neither null, false, zero nor empty. -/
def isTrue : Value → Bool
  | .null => false
  | .bool b => b
  | .int n => n != 0
  | .real d => d.digits != 0
  | .notNumber => true
  | .text s => !s.isEmpty
  | .list items => !items.isEmpty
  | .object fields => !fields.isEmpty

/-- The value has members, so that nothing can be looked up by it. -/
def isCompound : Value → Bool
  | .list _ | .object _ => true
  | _ => false

/-- The name of the value's shape in messages. -/
def shapeName : Value → String
  | .null => "NoneType"
  | .bool _ => "bool"
  | .int _ => "int"
  | .real _ | .notNumber => "float"
  | .text _ => "str"
  | .list _ => "list"
  | .object _ => "dict"

mutual

/-- The value as messages show it, with texts between quotes. -/
def quoted : Value → String
  | .null => "None"
  | .bool b => if b then "True" else "False"
  | .int n => toString n
  | .real d => String.ofList d.toText
  | .notNumber => "nan"
  | .text s => quotedString s
  | .list items => "[" ++ ", ".intercalate (quotedItems items) ++ "]"
  | .object fields => "\x7b" ++ ", ".intercalate (quotedFields fields) ++ "\x7d"

/-- The members of a list as messages show them. -/
def quotedItems : List Value → List String
  | [] => []
  | v :: rest => quoted v :: quotedItems rest

/-- The fields of an object as messages show them. -/
def quotedFields : List (String × Value) → List String
  | [] => []
  | (name, v) :: rest => (quotedString name ++ ": " ++ quoted v) :: quotedFields rest

end

/-- The value as messages show it, with a text as it is. -/
def display : Value → String
  | .text s => s
  | v => quoted v

end Value

end ClockFace

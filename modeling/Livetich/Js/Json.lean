/-
JSON values as JavaScript reads them back: their conversion to a number and their entries. The
entries of an object are listed in the order of `Object.entries`.
-/
import Livetich.Js.Number

namespace Livetich.Js

inductive Json where
  | null
  | bool (b : Bool)
  | num (n : Number)
  | str (s : String)
  | arr (items : List Json)
  | obj (entries : List (String × Json))
deriving Repr

/-- `Number(value)`. An array is read through its text: nothing is 0, one item is read for itself
(where `true` and `false` are words), and more than one leave a comma. -/
def Json.toNumber : Json → Number
  | .null => .ofInt 0
  | .bool b => if b then .ofInt 1 else .ofInt 0
  | .num n => n
  | .str s => .ofString s
  | .arr [] => .ofInt 0
  | .arr [.bool _] => .nan
  | .arr [item] => item.toNumber
  | .arr _ => .nan
  | .obj _ => .nan

/-- `Object.entries(value)` of an object or an array; anything else is not looked into. -/
def Json.entries : Json → List (String × Json)
  | .arr items => items.zipIdx.map fun p => (toString p.2, p.1)
  | .obj entries => entries
  | _ => []

/-- The items of an array, or nothing (`Array.isArray`). -/
def Json.items : Json → List Json
  | .arr items => items
  | _ => []

example : (Json.arr [.arr [.str "3"]]).toNumber = .ofInt 3 := by decide +kernel

end Livetich.Js

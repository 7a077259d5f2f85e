import BatchExec.Number.Integer
import BatchExec.Number.Shortest
import BatchExec.Text.Quoted

/-!
# Values

The dynamic values that settings may hold before they are checked, and how messages show them.
-/

namespace BatchExec

/-- A value of a setting. -/
inductive Value where
  | none
  | int (n : Int)
  | float (x : Float)
  | bool (b : Bool)
  | text (t : Text)
  | list (items : List Value)
  deriving Repr, Inhabited

namespace Value

/-- What messages call the type of a value. -/
def typeName : Value → Text
  | .none => "NoneType"
  | .int _ => "int"
  | .float _ => "float"
  | .bool _ => "bool"
  | .text _ => "str"
  | .list _ => "list"

mutual

/-- How messages show a value. -/
def shown : Value → Text
  | .none => "None"
  | .int n => Text.ofInt n
  | .float x => Text.ofFloat x
  | .bool b => if b then "True" else "False"
  | .text t => t.quoted
  | .list items => "[" ++ Text.join ", " (shownAll items) ++ "]"

/-- How messages show each value of a list. -/
def shownAll : List Value → List Text
  | [] => []
  | item :: items => shown item :: shownAll items

end

mutual

/-- Whether a value can be shown: no integer in it has too many digits. -/
def showable : Value → Bool
  | .int n => (Text.ofNat n.natAbs).length ≤ Text.maxIntegerDigits
  | .list items => allShowable items
  | _ => true

/-- Whether each value of a list can be shown. -/
def allShowable : List Value → Bool
  | [] => true
  | item :: items => showable item && allShowable items

end

/-- What is said of a value that cannot be shown. -/
def tooManyDigits : Text :=
  "Exceeds the limit (" ++ Text.ofNat Text.maxIntegerDigits ++
    " digits) for integer string conversion; use sys.set_int_max_str_digits() to increase the limit"

/-- A value within a sentence: a text stands there as it is. -/
def inSentence : Value → Text
  | .text t => t
  | value => value.shown

end Value

end BatchExec

import DomainModel.Json.Number

/-! JSON values. The members of an object keep their order, and no two of them have one key. -/

namespace DomainModel.Json

/-- A JSON value. -/
inductive Value where
  | null
  | bool (value : Bool)
  | number (value : Number)
  | text (value : String)
  | list (items : List Value)
  | object (members : List (String × Value))
  deriving BEq, Repr, Inhabited

/-- The value under a key. -/
def member? (members : List (String × Value)) (key : String) : Option Value := members.lookup key

/-- Sets the value under a key: in place if the key is there, at the end if not. -/
def setMember (members : List (String × Value)) (key : String) (value : Value) :
    List (String × Value) :=
  match members with
  | [] => [(key, value)]
  | (k, v) :: rest => if k == key then (key, value) :: rest else (k, v) :: setMember rest key value

namespace Value

/-- The value under a key of an object. -/
def get? (value : Value) (key : String) : Option Value :=
  match value with
  | .object members => member? members key
  | _ => none

/-- The items of a list. -/
def items? : Value → Option (List Value)
  | .list items => some items
  | _ => none

end Value

end DomainModel.Json

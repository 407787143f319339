import DomainModel.Constraint.Numeral
import DomainModel.Constraint.Registry
import DomainModel.Model.Basic
import DomainModel.Text.Ascii

/-! Checking the constraints of a field. The list is gone through four times: for names that are
missing, for names that are repeated, for values that are missing and for values of the wrong form.
The first fault of the first pass that finds one is reported. -/

namespace DomainModel

/-- What is wrong with a list of constraints. -/
inductive ConstraintFault where
  | missingName (index : Nat)
  | duplicate (name : String)
  | missingValue (name requirement : String)
  | invalidValue (name problem : String)
  deriving DecidableEq, Repr

/-- The wording of a fault. -/
def ConstraintFault.message : ConstraintFault → String
  | .missingName index => "constraint #" ++ toString index ++ " is missing a name"
  | .duplicate name => "constraint '" ++ name ++ "' is declared more than once"
  | .missingValue name requirement => "constraint '" ++ name ++ "' requires " ++ requirement
  | .invalidValue name problem => "constraint '" ++ name ++ "': " ++ problem

namespace Constraint

/-- The name without outer blanks. -/
def trimmedName (constraint : Constraint) : String := Text.trim constraint.name

/-- The first value, if it is not blank. -/
def first? (constraint : Constraint) : Option String := constraint.value.bind Text.nonBlank?

/-- The second value, if it is not blank. -/
def second? (constraint : Constraint) : Option String := constraint.value2.bind Text.nonBlank?

/-- The index of the first constraint without a name; the list begins at `index`. -/
def missingNameFrom? (index : Nat) : List Constraint → Option ConstraintFault
  | [] => none
  | constraint :: rest =>
    if constraint.trimmedName.isEmpty then some (.missingName index) else missingNameFrom? (index + 1) rest

/-- The first constraint whose name is among those before it. -/
def duplicateAmong? (seen : List String) : List Constraint → Option ConstraintFault
  | [] => none
  | constraint :: rest =>
    if seen.contains constraint.trimmedName then some (.duplicate constraint.trimmedName)
    else duplicateAmong? (constraint.trimmedName :: seen) rest

/-- What is asked for when the values that are there do not do. -/
def unmet? (need : NeededValues) (first second : Bool) : Option String :=
  match need with
  | .nothing => none
  | .first => if first then none else some "a value"
  | .both => if first && second then none else some "both values"
  | .anyOne => if first || second then none else some "at least one value"

/-- A value that is needed but missing. A constraint that is not registered needs none. -/
def missingValue? (constraint : Constraint) : Option ConstraintFault :=
  match ConstraintRule.find? constraint.trimmedName with
  | none => none
  | some rule =>
    (unmet? rule.need constraint.first?.isSome constraint.second?.isSome).map (.missingValue rule.name ·)

/-- The complaint about a value that fails a test. -/
def refuse? (test : String → Bool) (complaint : String) (value : Option String) : Option String :=
  match value with
  | some text => if test text then none else some ("'" ++ text ++ "' must be " ++ complaint)
  | none => none

/-- Whether a text is a truth value. -/
def isTruthValue (text : String) : Bool :=
  Text.equalIgnoringCase text "true" || Text.equalIgnoringCase text "false"

/-- A value of the wrong form. -/
def invalidValue? (constraint : Constraint) : Option ConstraintFault :=
  let name := constraint.trimmedName
  let problem :=
    if ["Size", "Digits"].contains name then
      (refuse? Numeral.isInteger64 "an integer" constraint.first?).or
        (refuse? Numeral.isInteger64 "an integer" constraint.second?)
    else if ["Min", "Max"].contains name then refuse? Numeral.isNumeric "numeric" constraint.first?
    else if ["DecimalMin", "DecimalMax"].contains name then
      (refuse? Numeral.isNumeric "numeric" constraint.first?).or
        (refuse? isTruthValue "true or false" constraint.second?)
    else none
  problem.map (.invalidValue name ·)

/-- The first fault of a list of constraints. -/
def firstFault? (constraints : List Constraint) : Option ConstraintFault :=
  (missingNameFrom? 0 constraints).or <|
    (duplicateAmong? [] constraints).or <|
      (constraints.findSome? missingValue?).or (constraints.findSome? invalidValue?)

end Constraint

end DomainModel

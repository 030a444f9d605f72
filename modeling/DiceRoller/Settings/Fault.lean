import DiceRoller.Text.Quoted

/-!
What can be wrong with a value that is given for a named field: each problem
has a code for programs and a message for people.
-/

namespace DiceRoller

/-- A value given for a field, as far as its kind matters. -/
inductive Given where
  | text (value : String)
  | number (value : Int)
  | flag (value : Bool)
  | other
  deriving DecidableEq, Repr

inductive Problem where
  | missing
  | notText
  | emptyText
  | unknownLevel (name : String)
  | unknownTransport
  | notInteger
  | unreadableInteger
  | oversizedInteger
  | belowOne
  deriving DecidableEq, Repr

namespace Problem

def code : Problem → String
  | missing => "missing"
  | notText => "string_type"
  | emptyText => "string_too_short"
  | unknownLevel _ => "value_error"
  | unknownTransport => "literal_error"
  | notInteger => "int_type"
  | unreadableInteger => "int_parsing"
  | oversizedInteger => "int_parsing_size"
  | belowOne => "greater_than_equal"

def message : Problem → String
  | missing => "Field required"
  | notText => "Input should be a valid string"
  | emptyText => "String should have at least 1 character"
  | unknownLevel name => "Value error, unknown log level " ++ Text.quoted name
  | unknownTransport => "Input should be 'stdio', 'sse' or 'streamable-http'"
  | notInteger => "Input should be a valid integer"
  | unreadableInteger =>
      "Input should be a valid integer, unable to parse string as an integer"
  | oversizedInteger => "Unable to parse input string as an integer, exceeded maximum size"
  | belowOne => "Input should be greater than or equal to 1"

end Problem

structure FieldFault where
  field : String
  problem : Problem
  deriving DecidableEq, Repr

def FieldFault.text (fault : FieldFault) : String :=
  s!"{fault.field}: {fault.problem.message}"

end DiceRoller

/-!
Runs: the joined notation cut before every sign. A notation that does not open
with a sign is read as if it opened with a plus, so every run starts with one.
-/

namespace DiceRoller.Run

def isSign (c : Char) : Bool :=
  c == '+' || c == '-'

def signed : List Char → List Char
  | [] => ['+']
  | c :: rest => if isSign c then c :: rest else '+' :: c :: rest

def split (joined : List Char) : List (List Char) :=
  (signed joined).splitBy fun _ next => !isSign next

end DiceRoller.Run

import DiceRoller.Session

/-!
The console. A session starts from the environment and the entropy of the
system, and every line of standard input is then rolled as a notation. Answers
go to standard output; the journal and what is wrong go to standard error.
-/

namespace DiceRoller.Console

/-- The variables that carry settings, as far as they are set. -/
def environment : IO Environment :=
  Field.all.filterMapM fun field => do
    return (← IO.getEnv field.variableName).map fun value => (field.variableName, value)

def entropy : IO Nat := do
  return Seed.bigEndian (← IO.getRandomBytes 32).toList

def report (reply : Session.Reply) : IO Unit := do
  reply.lines.forM IO.eprintln
  match reply.answer with
  | .ok (.record record) =>
      IO.println record.summary
      IO.println record.explanation
  | .ok _ => return
  | .error fault => fault.messages.forM IO.eprintln

partial def serve (state : Session.State) : IO Unit := do
  let line ← (← IO.getStdin).getLine
  unless line.isEmpty do
    let text := String.ofList (line.toList.filter fun c => c != '\n')
    let (reply, next) := Session.step (.rollDice text) state
    report reply
    serve next

def start : IO UInt32 := do
  let idle := { Session.initial (.system (← entropy)) with environment := ← environment }
  let (reply, running) := Session.step .run idle
  report reply
  match reply.answer with
  | .ok (.running .stdio _) =>
      serve running
      return 0
  | .ok _ =>
      IO.eprintln "The console serves no other transport than stdio."
      return 1
  | .error _ => return 1

end DiceRoller.Console

def main : IO UInt32 :=
  DiceRoller.Console.start

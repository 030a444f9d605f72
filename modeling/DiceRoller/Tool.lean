import DiceRoller.Settings.Fault

/-!
The one tool of the server: how it is announced, and the check of the argument
that it is called with.
-/

namespace DiceRoller.Tool

def serverName : String := "mcp-dice"

def name : String := "roll_dice"

def title : String := "D&D dice roller (read-only)"

def readOnly : Bool := true

def description : String :=
  "Roll dice from standard notation.\n\n" ++
  "    Supports NdS terms with kh/kl/dh/dl selectors, flat modifiers and a\n" ++
  "    trailing 'adv' or 'dis' for a single d20.\n\n" ++
  "    Output: structured JSON with every die rolled, the indices that counted,\n" ++
  "    the total and an explanation.\n\n" ++
  "    Raises a hard error (exception) on invalid input.\n" ++
  "    "

/-- The form of the arguments: one required text of at least `minLength` characters. -/
structure ArgumentForm where
  formTitle : String
  argument : String
  argumentTitle : String
  argumentDescription : String
  minLength : Nat

def argumentForm : ArgumentForm :=
  ⟨"roll_diceArguments", "notation", "Notation",
    "Dice expression, e.g. '1d20+5 adv', '4d6kh3', '2d6+1d4+3'.", 1⟩

/-- The arguments of a call, each name at most once. -/
abbrev Arguments := List (String × Given)

/-- Arguments of other names are left aside. -/
def argumentOf (arguments : Arguments) : Option Given :=
  arguments.lookup argumentForm.argument

def checkArgument : Option Given → Except (List FieldFault) String
  | none => .error [⟨argumentForm.argument, .missing⟩]
  | some (.text value) =>
      if value.length < argumentForm.minLength then
        .error [⟨argumentForm.argument, .emptyText⟩]
      else .ok value
  | some _ => .error [⟨argumentForm.argument, .notText⟩]

inductive Fault where
  | unknownTool (name : String)
  | failed (message : String)
  | invalid (faults : List FieldFault)
  deriving DecidableEq, Repr

/-- Faults of fields are reported one by one and have no message together. -/
def Fault.message? : Fault → Option String
  | unknownTool name => some s!"Unknown tool: {name}"
  | failed message => some s!"Error executing tool {name}: {message}"
  | invalid _ => none

end DiceRoller.Tool

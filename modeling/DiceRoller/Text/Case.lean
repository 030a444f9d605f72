import DiceRoller.Text.CaseTable
import DiceRoller.Text.LetterTable

/-!
Lower and upper case of whole texts by the full Unicode mappings. Lower case
is the only one that looks around: a capital sigma that ends a word becomes the
final form. ASCII letters are settled before any table is read.
-/

namespace DiceRoller.Text

def isCased (c : Char) : Bool :=
  if c.toNat < 128 then c.isAlpha else casedRanges.has c

/-- Marks and points that belong to the word around them. -/
def isCaseIgnorable (c : Char) : Bool :=
  if c.toNat < 128 then c == '\'' || c == '.' || c == ':' || c == '^' || c == '`'
  else caseIgnorableRanges.has c

def lowerChar (c : Char) : List Char :=
  if c.toNat < 128 then [c.toLower]
  -- The dot of the capital stays as a combining mark.
  else if c.toNat = 0x130 then ['i', Char.ofNat 0x307]
  else [shifted lowerRuns c]

/-- The first character that counts is a letter with case. -/
def startsCased (rest : List Char) : Bool :=
  (rest.find? fun c => !isCaseIgnorable c).any isCased

def isCapitalSigma (c : Char) : Bool :=
  c.toNat == 0x3A3

/-- `inWord` says that the last character that counts before this point is a
letter with case. -/
def lowerFrom (inWord : Bool) : List Char → List Char
  | [] => []
  | c :: rest =>
      let now := if isCaseIgnorable c then inWord else isCased c
      if isCapitalSigma c then
        Char.ofNat (if inWord && !startsCased rest then 0x3C2 else 0x3C3) :: lowerFrom now rest
      else lowerChar c ++ lowerFrom now rest

def lower (text : List Char) : List Char :=
  lowerFrom false text

def upperChar (c : Char) : List Char :=
  if c.toNat < 128 then [c.toUpper]
  else match upperSpellings.find? fun entry => entry.1 == c.toNat with
    | some entry => entry.2.map Char.ofNat
    | none => [shifted upperRuns c]

def upper (text : List Char) : List Char :=
  text.flatMap upperChar

end DiceRoller.Text

import DiceRoller.Expression.Basic
import DiceRoller.Text.Quoted

/-!
Expressions that come in pieces from outside: numbers may be out of range, a
selector may carry any letters and stand in either place. `build` makes the
value that the pieces describe, or names the first thing that is wrong.
-/

namespace DiceRoller

inductive ShapeFault where
  | unknownSelector (code : String)
  | emptySelector
  | emptyPool
  | twoSelectors
  | notKeeping (kind : SelectorKind)
  | notDropping (kind : SelectorKind)
  | bothModes
  deriving DecidableEq, Repr

def ShapeFault.message : ShapeFault → String
  | unknownSelector code => "unknown selector " ++ Text.quoted code
  | emptySelector => "selector count must be at least 1"
  | emptyPool => "dice count and sides must be at least 1"
  | twoSelectors => "a dice term takes either a keep or a drop selector, not both"
  | notKeeping kind => Text.quoted kind.code ++ " is not a keep selector"
  | notDropping kind => Text.quoted kind.code ++ " is not a drop selector"
  | bothModes => "advantage and disadvantage are mutually exclusive"

structure SelectorPiece where
  code : String
  size : Int

structure PoolPiece where
  count : Int
  sides : Int
  keep : Option SelectorPiece
  drop : Option SelectorPiece

inductive TermPiece where
  | pool (piece : PoolPiece)
  | modifier (value : Int)

structure ExpressionPiece where
  terms : List TermPiece
  advantage : Bool
  disadvantage : Bool

def SelectorPiece.build (piece : SelectorPiece) : Except ShapeFault Selector :=
  match SelectorKind.ofLetters? piece.code.toList with
  | none => .error (.unknownSelector piece.code)
  | some kind =>
      if positive : 0 < piece.size then .ok ⟨kind, piece.size.toNat, by omega⟩
      else .error .emptySelector

/-- At most one selector may be given, and it has to stand in its own place. -/
def PoolPiece.oneSelector : (keep drop : Option Selector) → Except ShapeFault (Option Selector)
  | none, none => .ok none
  | some _, some _ => .error .twoSelectors
  | some keep, none => if keep.kind.keeps then .ok (some keep) else .error (.notKeeping keep.kind)
  | none, some drop => if drop.kind.keeps then .error (.notDropping drop.kind) else .ok (some drop)

def PoolPiece.build (piece : PoolPiece) : Except ShapeFault Pool := do
  let keep ← piece.keep.mapM SelectorPiece.build
  let drop ← piece.drop.mapM SelectorPiece.build
  if positive : 0 < piece.count ∧ 0 < piece.sides then
    let selector ← oneSelector keep drop
    return ⟨piece.count.toNat, piece.sides.toNat, selector, by omega, by omega⟩
  else
    throw .emptyPool

def TermPiece.build : TermPiece → Except ShapeFault Term
  | pool piece => return .pool (← piece.build)
  | modifier value => return .modifier value

def ExpressionPiece.mode : (advantage disadvantage : Bool) → Except ShapeFault (Option Mode)
  | true, true => .error .bothModes
  | true, false => .ok (some .advantage)
  | false, true => .ok (some .disadvantage)
  | false, false => .ok none

def ExpressionPiece.build (piece : ExpressionPiece) : Except ShapeFault Expression := do
  let terms ← piece.terms.mapM TermPiece.build
  let mode ← mode piece.advantage piece.disadvantage
  return ⟨terms, mode⟩

end DiceRoller

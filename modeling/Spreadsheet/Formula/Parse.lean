import Spreadsheet.Formula.Expr
import Spreadsheet.Formula.SyntaxError
import Spreadsheet.Formula.Token.Scan

/-! Trees from tokens. Operators bind, from the loosest: comparisons, `&`, `+` and `-`, `*` and
`/`, all to the left; `^` to the right; signs; `%`; and `:` between two cells. -/

namespace Spreadsheet.Formula

open Spreadsheet.Text

/-- Bounds on what is read: levels of nesting, and operators other than signs. -/
structure Limits where
  depth : Nat
  operators : Nat
  deriving DecidableEq, Repr

/-- Tokens not yet read, the level they stand on, and the operators counted so far. -/
structure Cursor where
  rest : List Token
  depth : Nat
  operators : Nat

abbrev Reader := StateT Cursor (Except SyntaxError)

/-- Phrases that occur within themselves. -/
inductive Phrase
  | expression
  | power
  | operand
  deriving DecidableEq, Repr

namespace Reader

def peek : Reader (Option Token) := return (← get).rest.head?

def advance : Reader Unit := modify fun cursor => { cursor with rest := cursor.rest.tail }

def next : Reader (Option Token) := do
  let token ← peek
  advance
  return token

def expect (wanted : Mark) : Reader Unit := do
  let found ← peek
  if found = some (.mark wanted) then advance else throw (.expected wanted found)

def nested (limits : Limits) (inner : Reader α) : Reader α := do
  let level := (← get).depth + 1
  if limits.depth < level then throw (.tooDeep limits.depth)
  modify fun cursor => { cursor with depth := level }
  let result ← inner
  modify fun cursor => { cursor with depth := level - 1 }
  return result

def operator (limits : Limits) : Reader Unit := do
  let count := (← get).operators + 1
  if limits.operators < count then throw (.tooManyOperators limits.operators)
  modify fun cursor => { cursor with operators := count }
  advance

/-- Operators of one tier and their right operands, grouped from the left, at most so many. -/
def chainAfter (limits : Limits) (tier : Token → Option BinaryOp) (operand : Reader Expr) :
    Nat → Expr → Reader Expr
  | 0, left => return left
  | more + 1, left => do
    match (← peek).bind tier with
    | none => return left
    | some op =>
      operator limits
      let right ← operand
      chainAfter limits tier operand more (.binary op left right)

def chain (limits : Limits) (bound : Nat) (tier : Token → Option BinaryOp)
    (operand : Reader Expr) : Reader Expr := do
  chainAfter limits tier operand bound (← operand)

def percentsAfter (limits : Limits) : Nat → Expr → Reader Expr
  | 0, operand => return operand
  | more + 1, operand => do
    if (← peek) = some (.mark .percent) then
      operator limits
      percentsAfter limits more (.unary .percent operand)
    else return operand

end Reader

open Reader

def comparison? : Token → Option BinaryOp
  | .mark .equal => some .equal
  | .mark .notEqual => some .notEqual
  | .mark .lessThan => some .lessThan
  | .mark .lessEqual => some .lessEqual
  | .mark .greaterThan => some .greaterThan
  | .mark .greaterEqual => some .greaterEqual
  | _ => none

def concatenation? : Token → Option BinaryOp
  | .mark .ampersand => some .concat
  | _ => none

def addition? : Token → Option BinaryOp
  | .mark .plus => some .add
  | .mark .minus => some .subtract
  | _ => none

def multiplication? : Token → Option BinaryOp
  | .mark .star => some .multiply
  | .mark .slash => some .divide
  | _ => none

section Phrases

variable (limits : Limits) (bound : Nat) (phrase : Phrase → Reader Expr)

def readCell (spelling : String) : Reader Expr :=
  match Address.read spelling.toList with
  | .ok address => return .cell address
  | .error cause => throw (.badReference spelling cause)

/-- Arguments behind the first, each behind a comma, at most so many. -/
def readArguments : Nat → Reader (List Expr)
  | 0 => return []
  | more + 1 => do
    if (← peek) = some (.mark .comma) then
      advance
      let argument ← phrase .expression
      return argument :: (← readArguments more)
    else return []

def readCall (name : String) : Reader Expr := do
  expect .leftParen
  if (← peek) = some (.mark .rightParen) then
    advance
    return .call (.ofList (upperAscii name.toList)) []
  else
    let first ← phrase .expression
    let others ← readArguments phrase bound
    expect .rightParen
    return .call (.ofList (upperAscii name.toList)) (first :: others)

def readPrimary : Reader Expr := do
  match ← next with
  | some (.number n) => return .number n
  | some (.text s) => return .text s
  | some (.boolean b) => return .boolean b
  | some (.reference spelling) => readCell spelling
  | some (.name spelling) =>
    if (← peek) = some (.mark .leftParen) then nested limits (readCall bound phrase spelling)
    else return .name spelling
  | some (.mark .leftParen) =>
    let inner ← phrase .expression
    expect .rightParen
    return inner
  | some (.invalid fault) => throw (.unreadable fault)
  | found => throw (.unexpected found)

def readRange : Reader Expr := do
  let first ← readPrimary limits bound phrase
  if (← peek) = some (.mark .colon) then
    advance
    match first, ← readPrimary limits bound phrase with
    | .cell a, .cell b => return .range (.spanning a b)
    | _, _ => throw .notBetweenCells
  else return first

/-- Signs before an operand, or percent signs behind it. A plus leaves no trace. -/
def readOperand : Reader Expr := do
  match ← peek with
  | some (.mark .minus) =>
    advance
    return .unary .negate (← nested limits (phrase .operand))
  | some (.mark .plus) =>
    advance
    nested limits (phrase .operand)
  | _ =>
    let operand ← readRange limits bound phrase
    percentsAfter limits bound operand

def readPower : Reader Expr := do
  let base ← readOperand limits bound phrase
  if (← peek) = some (.mark .caret) then
    operator limits
    return .binary .power base (← nested limits (phrase .power))
  else return base

def readExpression : Reader Expr :=
  nested limits <|
    chain limits bound comparison? <|
      chain limits bound concatenation? <|
        chain limits bound addition? <|
          chain limits bound multiplication? <| readPower limits bound phrase

end Phrases

/-- Reads a phrase. Every phrase inside another stands behind a token of that one, and so does
every repetition, so the number of tokens left bounds both. -/
def readPhrase (limits : Limits) : Nat → Phrase → Reader Expr
  | 0, _ => throw (.unexpected none)
  | bound + 1, .expression => readExpression limits bound fun inner => readPhrase limits bound inner
  | bound + 1, .power => readPower limits bound fun inner => readPhrase limits bound inner
  | bound + 1, .operand => readOperand limits bound fun inner => readPhrase limits bound inner

/-- A formula without blanks around it and without the equals sign in front. -/
def body (s : List Char) : List Char :=
  match trim s with
  | '=' :: rest => rest
  | text => text

def parseTokens (limits : Limits) (tokens : List Token) : Except SyntaxError Expr :=
  if tokens.isEmpty then .error .empty
  else do
    let (expr, cursor) ← (readPhrase limits (tokens.length + 1) .expression).run ⟨tokens, 0, 0⟩
    match cursor.rest with
    | [] => return expr
    | .invalid fault :: _ => throw (.unreadable fault)
    | token :: _ => throw (.trailing token)

def parse (limits : Limits) (s : List Char) : Except SyntaxError Expr :=
  parseTokens limits (tokens (body s))

end Spreadsheet.Formula

import Spreadsheet.Proofs.Formula.Lexeme
import Spreadsheet.Proofs.Formula.Reader

/-! Trees from a text whose tokens are scanned one at a time, as they are consumed. The routines
that read a phrase call each other and themselves, and nothing in them counts what is left to
read. -/

namespace Spreadsheet.Formula

open Spreadsheet.Text

/-- Where a reading stands: at a token or the end, with the text behind it not yet scanned. -/
structure Progress where
  left : List Char
  current : Option Token
  depth : Nat
  operators : Nat
  consumed : List Token

namespace Progress

def start (s : List Char) : Progress := ⟨(scanNext s).2, (scanNext s).1, 0, 0, []⟩

/-- Behind the token that it stood at. -/
def next (progress : Progress) : Progress :=
  { progress with
    left := (scanNext progress.left).2
    current := (scanNext progress.left).1
    consumed := progress.consumed ++ progress.current.toList }

end Progress

/-- Readings that may fail, and that may come to no end. -/
abbrev Descent := ExceptT SyntaxError (StateT Progress Option)

namespace Descent

/-- How a reading ends and where it stands then, or nothing if it comes to no end. -/
def runFrom (descent : Descent α) (start : Progress) :
    Option (Except SyntaxError α × Progress) := (ExceptT.run descent).run start

theorem runFrom_bind (descent : Descent α) (after : α → Descent β) (start : Progress) :
    (descent >>= after).runFrom start =
      (descent.runFrom start).bind fun ending =>
        match ending.1 with
        | .ok a => (after a).runFrom ending.2
        | .error error => some (.error error, ending.2) := by
  unfold runFrom
  rw [ExceptT.run_bind, StateT.run_bind]
  refine congrArg (Option.bind _) (funext fun ending => ?_)
  cases ending.1 <;> rfl

def peek : Descent (Option Token) := return (← get).current

def advance : Descent Unit := modify Progress.next

def next : Descent (Option Token) := do
  let token ← peek
  advance
  return token

def expect (wanted : Mark) : Descent Unit := do
  let found ← peek
  if found = some (.mark wanted) then advance else throw (.expected wanted found)

def cell (spelling : String) : Descent Expr :=
  match Address.read spelling.toList with
  | .ok address => return .cell address
  | .error cause => throw (.badReference spelling cause)

def endless : Descent α := ExceptT.mk fun _ => none

variable (limits : Limits)

def descend : Descent Unit := do
  let level := (← get).depth + 1
  if limits.depth < level then throw (.tooDeep limits.depth)
  modify fun progress => { progress with depth := level }

def ascend : Descent Unit := modify fun progress => { progress with depth := progress.depth - 1 }

def nested (inner : Descent α) : Descent α := do
  descend limits
  let result ← inner
  ascend
  return result

def operator : Descent Unit := do
  let count := (← get).operators + 1
  if limits.operators < count then throw (.tooManyOperators limits.operators)
  modify fun progress => { progress with operators := count }
  advance

theorem runFrom_descend (start : Progress) :
    (descend limits).runFrom start =
      if limits.depth < start.depth + 1 then some (.error (.tooDeep limits.depth), start)
      else some (.ok (), { start with depth := start.depth + 1 }) := by
  change runFrom (ite (limits.depth < start.depth + 1) _ _) start = _
  split <;> rfl

theorem runFrom_operator (start : Progress) :
    (operator limits).runFrom start =
      if limits.operators < start.operators + 1 then
        some (.error (.tooManyOperators limits.operators), start)
      else some (.ok (), { start with operators := start.operators + 1 }.next) := by
  change runFrom (ite (limits.operators < start.operators + 1) _ _) start = _
  split <;> rfl

end Descent

/-- Routines, by what they find. -/
inductive Routine : Type → Type
  | expression : Routine Expr
  /-- Operands of a tier with its operators between them, grouped from the left. -/
  | chain (tier : Tier) : Routine Expr
  | chainAfter (tier : Tier) (left : Expr) : Routine Expr
  | power : Routine Expr
  | operand : Routine Expr
  | percents (operand : Expr) : Routine Expr
  | range : Routine Expr
  | primary : Routine Expr
  | call (name : String) : Routine Expr
  | arguments : Routine (List Expr)

/-- What finds the operands of a chain. -/
def Routine.joint : Tier → Routine Expr
  | .comparison => .chain .concatenation
  | .concatenation => .chain .addition
  | .addition => .chain .multiplication
  | _ => .power

def Phrase.routine : Phrase → Routine Expr
  | .expression => .expression
  | .power => .power
  | .operand => .operand

namespace Descent

section Step

variable (limits : Limits) (call : {α : Type} → Routine α → Descent α)

/-- What a routine does, with others to call. -/
def step : Routine α → Descent α
  | .expression => nested limits (call (.chain .comparison))
  | .chain tier => do
    let first ← call (.joint tier)
    call (.chainAfter tier first)
  | .chainAfter tier left => do
    match (← peek).bind tier.operator? with
    | none => return left
    | some op =>
      operator limits
      let right ← call (.joint tier)
      call (.chainAfter tier (.binary op left right))
  | .power => do
    let base ← call .operand
    if (← peek) = some (.mark .caret) then
      operator limits
      return .binary .power base (← nested limits (call .power))
    else return base
  | .operand => do
    match ← peek with
    | some (.mark .minus) =>
      advance
      return .unary .negate (← nested limits (call .operand))
    | some (.mark .plus) =>
      advance
      nested limits (call .operand)
    | _ =>
      let operand ← call .range
      call (.percents operand)
  | .percents operand => do
    if (← peek) = some (.mark .percent) then
      operator limits
      call (.percents (.unary .percent operand))
    else return operand
  | .range => do
    let first ← call .primary
    if (← peek) = some (.mark .colon) then
      advance
      match first, ← call .primary with
      | .cell a, .cell b => return .range (.spanning a b)
      | _, _ => throw .notBetweenCells
    else return first
  | .primary => do
    match ← next with
    | some (.number n) => return .number n
    | some (.text s) => return .text s
    | some (.boolean b) => return .boolean b
    | some (.reference spelling) => cell spelling
    | some (.name spelling) =>
      if (← peek) = some (.mark .leftParen) then nested limits (call (.call spelling))
      else return .name spelling
    | some (.mark .leftParen) =>
      let inner ← call .expression
      expect .rightParen
      return inner
    | some (.invalid fault) => throw (.unreadable fault)
    | found => throw (.unexpected found)
  | .call name => do
    expect .leftParen
    if (← peek) = some (.mark .rightParen) then
      advance
      return .call (.ofList (upperAscii name.toList)) []
    else
      let first ← call .expression
      let others ← call .arguments
      expect .rightParen
      return .call (.ofList (upperAscii name.toList)) (first :: others)
  | .arguments => do
    if (← peek) = some (.mark .comma) then
      advance
      let argument ← call .expression
      return argument :: (← call .arguments)
    else return []

end Step

variable (limits : Limits)

/-- A routine whose calls may nest so deep, counting its own. No call below that comes to an end. -/
def run : Nat → {α : Type} → Routine α → Descent α
  | 0, _, _ => endless
  | deep + 1, _, routine => step limits (run deep) routine

def finish (e : Expr) : Descent Expr := do
  match ← peek with
  | none => return e
  | some (.invalid fault) => throw (.unreadable fault)
  | some token => throw (.trailing token)

def formula (deep : Nat) : Descent Expr := do
  if (← peek) = none then throw .empty
  finish (← run limits deep .expression)

end Descent

end Spreadsheet.Formula

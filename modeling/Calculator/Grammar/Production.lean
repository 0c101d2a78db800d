import Calculator.Grammar.Basic
import Calculator.Grammar.Outcome
import Calculator.Tree.Basic

/-!
# Productions

Both grammars are read by recursive descent with one token of lookahead, and
with two where the right-recursive grammar decides whether a number goes on as an
expression.  Each call of a production spends one unit of a budget and hands the
rest to the productions it calls, so the budget bounds how many calls can be
unfinished at a time.  The loops spend nothing: a turn that consumed no token
would cut them off.
-/

namespace Calculator

/-- What a program is read by: the grammar, and how deeply expressions and
groupings may nest. -/
structure Rules where
  grammar : Grammar
  limit : Nat
deriving DecidableEq, Repr, Inhabited

namespace Cursor

/-- The operator spelled by the next token. -/
def operator? (cursor : Cursor) : Option Operator :=
  cursor.rest.head?.bind Token.operator?

end Cursor

namespace Production

/-- Reads a number, the cursor standing just behind its token. -/
def number (token : Token) (cursor : Cursor) : Outcome String :=
  if 1 < token.dots then .failed (.ambiguous token) (cursor.before token)
  else .ok token.text cursor

def operator (cursor : Cursor) : Outcome Operator :=
  match cursor.operator? with
  | some operator => .ok operator { cursor with rest := cursor.rest.tail }
  | none => .failed (.missing .operator cursor.rest) cursor

/-- A grouping can be an operand only if it holds a single statement. -/
def groupingOperand (opening : Token) (body : Measured (List Statement)) (cursor : Cursor) :
    Outcome (Measured Operand) :=
  if body.value.length = 1 then .ok (body.map fun body => .nested (.grouping body)) cursor
  else .failed (.unexpected .singleExpression opening) cursor

/-- A number alone is no statement. -/
def finish (operand : Measured Operand) (cursor : Cursor) : Outcome (Measured Statement) :=
  match operand.value with
  | .nested statement => .ok ⟨statement, operand.depth⟩ cursor
  | .number _ => .failed (.missing .operator cursor.rest) cursor

/-- Reads on from an operand over all operators of at least the minimum
precedence.  What follows an operator binds tighter than it does, so operators of
one precedence group to the left. -/
def operators (limit : Nat) (operand : Nat → Cursor → Outcome (Measured Operand))
    (minimum : Nat) (left : Measured Operand) (cursor : Cursor) : Outcome (Measured Operand) :=
  match cursor.rest with
  | [] => .ok left cursor
  | token :: tail =>
      match token.operator? with
      | none => .ok left cursor
      | some operator =>
          if operator.precedence < minimum then .ok left cursor
          else
            (operand (operator.precedence + 1) { cursor with rest := tail }).bind
              fun right after =>
                (Measured.within limit token
                  ⟨.nested (.expression operator left.value right.value),
                    max left.depth right.depth + 1⟩ after).bind
                  fun combined after =>
                    if after.rest.length < cursor.rest.length then
                      operators limit operand minimum combined after
                    else .exhausted
termination_by cursor.rest.length

/-- Reads statements up to and including the parenthesis that closes a grouping,
at least one unless some have already been read. -/
def closedBody (statement : Cursor → Outcome (Measured Statement)) (opening : Token)
    (started : Bool) (cursor : Cursor) : Outcome (Measured (List Statement)) :=
  match cursor.rest with
  | [] => .failed (.ended (.closing opening)) cursor
  | token :: tail =>
      if token.isRightParen then
        if started then .ok ⟨[], 0⟩ { cursor with rest := tail }
        else .failed (.unexpected .expression token) cursor
      else
        (statement cursor).bind fun first after =>
          if after.rest.length < cursor.rest.length then
            (closedBody statement opening true after).map fun others =>
              ⟨first.value :: others.value, max first.depth others.depth⟩
          else .exhausted
termination_by cursor.rest.length

/-- Reads statements up to the end of the tokens. -/
def openBody (statement : Cursor → Outcome (Measured Statement)) (cursor : Cursor) :
    Outcome (List Statement) :=
  match cursor.rest with
  | [] => .ok [] cursor
  | _ :: _ =>
      (statement cursor).bind fun first after =>
        if after.rest.length < cursor.rest.length then
          (openBody statement after).map (first.value :: ·)
        else .exhausted
termination_by cursor.rest.length

mutual

def statement (rules : Rules) : Nat → Cursor → Outcome (Measured Statement)
  | 0, _ => .exhausted
  | budget + 1, cursor =>
      match rules.grammar with
      | .precedence => climbingStatement rules budget cursor
      | .rightRecursive => chainStatement rules budget cursor

/-- Reads a grouping, the cursor standing just behind its opening parenthesis. -/
def grouping (rules : Rules) : Nat → Token → Cursor → Outcome (Measured (List Statement))
  | 0, _, _ => .exhausted
  | budget + 1, opening, cursor =>
      (cursor.nest rules.limit opening).bind fun _ inside =>
        (closedBody (fun place => statement rules budget place) opening false inside).bind
          fun body after =>
            Measured.within rules.limit opening ⟨body.value, body.depth + 1⟩ after.unnest

/-- Reads a statement under precedence.  A grouping at its start is the whole
statement unless an operator follows it. -/
def climbingStatement (rules : Rules) : Nat → Cursor → Outcome (Measured Statement)
  | 0, _ => .exhausted
  | budget + 1, cursor =>
      match cursor.rest with
      | [] => .failed (.ended .statement) cursor
      | token :: tail =>
          if token.isLeftParen then
            (grouping rules budget token { cursor with rest := tail }).bind fun body after =>
              match after.operator? with
              | none => .ok (body.map Statement.grouping) after
              | some _ =>
                  (groupingOperand token body after).bind fun left after =>
                    (climb rules budget 1 left after).bind finish
          else (climbing rules budget 1 cursor).bind finish

/-- Reads an operand and all operators after it of at least the minimum
precedence. -/
def climbing (rules : Rules) : Nat → Nat → Cursor → Outcome (Measured Operand)
  | 0, _, _ => .exhausted
  | budget + 1, minimum, cursor =>
      (primary rules budget cursor).bind fun left after => climb rules budget minimum left after

def climb (rules : Rules) : Nat → Nat → Measured Operand → Cursor → Outcome (Measured Operand)
  | 0, _, _, _ => .exhausted
  | budget + 1, minimum, left, cursor =>
      operators rules.limit (fun tighter place => climbing rules budget tighter place)
        minimum left cursor

def primary (rules : Rules) : Nat → Cursor → Outcome (Measured Operand)
  | 0, _ => .exhausted
  | budget + 1, cursor =>
      match cursor.rest with
      | [] => .failed (.ended .operand) cursor
      | token :: tail =>
          let behind := { cursor with rest := tail }
          if token.kind = .number then
            (number token behind).map fun literal => ⟨.number literal, 0⟩
          else if token.isLeftParen then
            (grouping rules budget token behind).bind (groupingOperand token)
          else .failed (.unexpected .operand token) cursor

/-- Reads a statement of the right-recursive grammar. -/
def chainStatement (rules : Rules) : Nat → Cursor → Outcome (Measured Statement)
  | 0, _ => .exhausted
  | budget + 1, cursor =>
      match cursor.rest with
      | [] => .failed (.ended .statement) cursor
      | token :: tail =>
          let behind := { cursor with rest := tail }
          if token.kind = .number then chainExpression rules budget token behind
          else if token.isLeftParen then
            (grouping rules budget token behind).map (Measured.map Statement.grouping)
          else .failed (.unexpected .numberOrGrouping token) cursor

/-- Reads an expression, the cursor standing just behind the number it starts
with. -/
def chainExpression (rules : Rules) : Nat → Token → Cursor → Outcome (Measured Statement)
  | 0, _, _ => .exhausted
  | budget + 1, start, cursor =>
      ((cursor.before start).nest rules.limit start).bind fun _ inside =>
        (number start { inside with rest := cursor.rest }).bind fun left after =>
          (operator after).bind fun operator after =>
            (chainOperand rules budget after).bind fun right after =>
              Measured.within rules.limit start
                ⟨.expression operator (.number left) right.value, right.depth + 1⟩ after.unnest

/-- A number in front of a token of kind `operator` starts an expression; any
other number stands for itself. -/
def chainOperand (rules : Rules) : Nat → Cursor → Outcome (Measured Operand)
  | 0, _ => .exhausted
  | budget + 1, cursor =>
      match cursor.rest with
      | [] => .failed (.ended .operand) cursor
      | token :: tail =>
          let behind := { cursor with rest := tail }
          if token.kind = .number then
            if tail.head?.any fun next => next.kind = .operator then
              (chainExpression rules budget token behind).map (Measured.map Operand.nested)
            else (number token behind).map fun literal => ⟨.number literal, 0⟩
          else if token.isLeftParen then
            (grouping rules budget token behind).map
              (Measured.map fun body => Operand.nested (Statement.grouping body))
          else .failed (.unexpected .operand token) cursor

end

/-- Enough for every production call that the nesting limit lets happen. -/
def budgetFor (limit : Nat) : Nat :=
  10 * (limit + 2)

/-- Reads all tokens as a program. -/
def program (rules : Rules) (tokens : List Token) : Outcome Program :=
  (openBody (statement rules (budgetFor rules.limit)) ⟨tokens, 0⟩).map Program.mk

end Production

end Calculator

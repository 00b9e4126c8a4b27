import Parlance.Expr.Basic

/-!
# Canonical text

The canonical text of an expression writes every operator with its operands in parentheses, so it
shows how the source was grouped. Wrappers leave no trace, except around a comma list.
-/

namespace Parlance

/-- How a canonical string literal shows a character. -/
def escapedChar (char : Char) : Text :=
  if char = '\\' ∨ char = '"' then ['\\', char] else [char]

/-- The canonical text of a literal. -/
def Constant.canonical : Constant → Text
  | number value => (Numeral.write value).toList
  | string text => '"' :: text.toList.flatMap escapedChar ++ ['"']

namespace Expr

/-- The canonical text of the expression. -/
def canonical : Expr → Text
  | symbol _ name => name.toList
  | literal _ value => value.canonical
  | member _ object property => object.canonical ++ '.' :: property.toList
  | index _ object key => object.canonical ++ '[' :: key.canonical ++ [']']
  | call _ callee arguments => callee.canonical ++ '(' :: arguments.canonical ++ [')']
  | callEmpty _ callee => callee.canonical ++ ['(', ')']
  | unary _ operator operand => '(' :: operator.symbol.toList ++ operand.canonical ++ [')']
  | stepAfter _ step operand => '(' :: operand.canonical ++ step.symbol.toList ++ [')']
  | binary _ operator left right =>
      match operator with
      | .comma => left.canonical ++ ',' :: ' ' :: right.canonical
      | operator =>
          '(' :: left.canonical ++ ' ' :: operator.symbol.toList ++ ' ' :: right.canonical ++ [')']
  | ternary _ condition truthy falsy =>
      '(' :: condition.canonical ++ [' ', '?', ' '] ++ truthy.canonical ++ [' ', ':', ' '] ++
        falsy.canonical ++ [')']
  | wrapper _ inner =>
      if inner.isSequence then '(' :: inner.canonical ++ [')'] else inner.canonical

end Expr

end Parlance

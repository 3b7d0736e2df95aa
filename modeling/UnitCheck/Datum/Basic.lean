import UnitCheck.Source.Span

/-!
# Data

A unit is written as a sequence of data: atoms (symbols, strings and numbers)
and lists of data. Every datum knows the span it was read from. `Datum.render`
writes a datum back on one line; reading that line gives the same datum, its
spans aside.
-/

namespace UnitCheck

/-- One datum with the span it was read from. -/
inductive Datum where
  | symbol (text : String) (span : Span)
  | string (text : String) (span : Span)
  | number (text : String) (span : Span)
  | list (items : List Datum) (span : Span)
deriving Inhabited

namespace Datum

/-- The span the datum was read from. -/
def span : Datum -> Span
  | .symbol _ span | .string _ span | .number _ span | .list _ span => span

/-- The text of an atom; a list has none. -/
def text : Datum -> String
  | .symbol text _ | .string text _ | .number text _ => text
  | .list _ _ => ""

/-- The items of a list; an atom has none. -/
def items : Datum -> List Datum
  | .list items _ => items
  | _ => []

/-- Whether the datum is the symbol `name`. -/
def isSymbol (name : String) : Datum -> Bool
  | .symbol text _ => text = name
  | _ => false

/-- The leading symbol of a list, or the empty text. -/
def head : Datum -> String
  | .list (.symbol text _ :: _) _ => text
  | _ => ""

/-- How one character of a string is written between its quotes. -/
def escapeChar (c : Char) : List Char :=
  if c = '\\' || c = '"' then ['\\', c] else [c]

/-- A string's characters as written, quotes included. -/
def quoteChars (text : List Char) : List Char :=
  '"' :: text.flatMap escapeChar ++ ['"']

mutual

/-- The characters of a datum written on one line. -/
def chars : Datum -> List Char
  | .symbol text _ | .number text _ => text.toList
  | .string text _ => quoteChars text.toList
  | .list items _ => '(' :: joinedChars items ++ [')']

/-- The characters of several data, one blank between neighbours. -/
def joinedChars : List Datum -> List Char
  | [] => []
  | [datum] => chars datum
  | datum :: rest => chars datum ++ ' ' :: joinedChars rest

end

/-- The datum written on one line. -/
def render (datum : Datum) : String :=
  String.ofList datum.chars

mutual

/-- The datum with every span replaced by `blank`: what it is, wherever it was read. -/
def respan (blank : Span) : Datum -> Datum
  | .symbol text _ => .symbol text blank
  | .string text _ => .string text blank
  | .number text _ => .number text blank
  | .list items _ => .list (respanAll blank items) blank

/-- `respan` on each of several data. -/
def respanAll (blank : Span) : List Datum -> List Datum
  | [] => []
  | datum :: rest => respan blank datum :: respanAll blank rest

end

mutual

/-- The datum and all data inside it, outermost first and from left to right, each
with its depth. -/
def walk (depth : Nat) : Datum -> List (Nat × Datum)
  | .symbol text span => [(depth, .symbol text span)]
  | .string text span => [(depth, .string text span)]
  | .number text span => [(depth, .number text span)]
  | .list items span => (depth, .list items span) :: walkAll (depth + 1) items

/-- `walk` over several data of one depth. -/
def walkAll (depth : Nat) : List Datum -> List (Nat × Datum)
  | [] => []
  | datum :: rest => walk depth datum ++ walkAll depth rest

end
end Datum
end UnitCheck

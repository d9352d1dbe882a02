import CommandBridge.Decimal.Layout
import CommandBridge.Json.Basic

/-! JSON text, on one line or indented by two spaces a level. -/
namespace CommandBridge.Json

open Decimal

def hexDigit (n : Nat) : Char := (Nat.digitChar n)

def escapeChar (c : Char) : List Char :=
  match c with
  | '"' => ['\\', '"']
  | '\\' => ['\\', '\\']
  | '\x08' => ['\\', 'b']
  | '\x0c' => ['\\', 'f']
  | '\n' => ['\\', 'n']
  | '\r' => ['\\', 'r']
  | '\t' => ['\\', 't']
  | c =>
    if c.toNat < 0x20 then
      ['\\', 'u', '0', '0', hexDigit (c.toNat / 16), hexDigit (c.toNat % 16)]
    else [c]

def printString (s : String) : List Char := '"' :: s.toList.flatMap escapeChar ++ ['"']

/-- A number without a finite value is written as null. -/
def printFloat (x : Binary64) : List Char :=
  if x.isFinite then writeFinite .data x else ['n', 'u', 'l', 'l']

mutual

/-- The text on one line. -/
def print : Json → List Char
  | null => ['n', 'u', 'l', 'l']
  | bool true => ['t', 'r', 'u', 'e']
  | bool false => ['f', 'a', 'l', 's', 'e']
  | int i => intDigits i
  | float x => printFloat x
  | string s => printString s
  | array items => '[' :: printItems items
  | object members => '\x7b' :: printMembers members

def printItems : List Json → List Char
  | [] => [']']
  | [j] => print j ++ [']']
  | j :: js => print j ++ ',' :: printItems js

def printMembers : List (String × Json) → List Char
  | [] => ['\x7d']
  | [(k, j)] => printString k ++ ':' :: print j ++ ['\x7d']
  | (k, j) :: ms => printString k ++ ':' :: print j ++ ',' :: printMembers ms

end

def newline (indent : Nat) : List Char := '\n' :: List.replicate (2 * indent) ' '

mutual

/-- The indented text of a value that stands at the given level. -/
def prettyAt (indent : Nat) : Json → List Char
  | array [] => ['[', ']']
  | array items => '[' :: prettyItems (indent + 1) items
  | object [] => ['\x7b', '\x7d']
  | object members => '\x7b' :: prettyMembers (indent + 1) members
  | j => print j

def prettyItems (indent : Nat) : List Json → List Char
  | [] => []
  | [j] => newline indent ++ prettyAt indent j ++ newline (indent - 1) ++ [']']
  | j :: js => newline indent ++ prettyAt indent j ++ ',' :: prettyItems indent js

def prettyMembers (indent : Nat) : List (String × Json) → List Char
  | [] => []
  | [(k, j)] =>
    newline indent ++ printString k ++ ':' :: ' ' :: prettyAt indent j ++
      newline (indent - 1) ++ ['\x7d']
  | (k, j) :: ms =>
    newline indent ++ printString k ++ ':' :: ' ' :: prettyAt indent j ++
      ',' :: prettyMembers indent ms

end

def compact (j : Json) : String := String.ofList j.print

def pretty (j : Json) : String := String.ofList (prettyAt 0 j)

end CommandBridge.Json

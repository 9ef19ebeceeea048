import CitedChat.Json.Error

/-!
Writing a value as JSON text: no white space, members in their order, and escapes only for quotes,
backslashes and control characters.
-/

set_option autoImplicit false

namespace CitedChat.Json

def hexDigit (n : Nat) : Char :=
  Nat.digitChar n

/-- Control characters without a short escape are written by their code in four digits. -/
def escapeChar (c : Char) : List Char :=
  if c == '"' then ['\\', '"']
  else if c == '\\' then ['\\', '\\']
  else if c == '\x08' then ['\\', 'b']
  else if c == '\x0c' then ['\\', 'f']
  else if c == '\n' then ['\\', 'n']
  else if c == '\r' then ['\\', 'r']
  else if c == '\t' then ['\\', 't']
  else if c.toNat < 0x20 then
    ['\\', 'u', '0', '0', hexDigit (c.toNat / 16), hexDigit (c.toNat % 16)]
  else [c]

def printString (text : String) : List Char :=
  '"' :: text.toList.flatMap escapeChar ++ ['"']

def Number.print : Number → List Char
  | .integer value => (toString value).toList
  | .float value => (floatText value).toList

/-- Joins pieces with commas. -/
def commaJoin : List (List Char) → List Char
  | [] => []
  | [piece] => piece
  | piece :: rest => piece ++ ',' :: commaJoin rest

namespace Tree

mutual

def print : Tree → List Char
  | .null => "null".toList
  | .bool true => "true".toList
  | .bool false => "false".toList
  | .number n => n.print
  | .string s => printString s
  | .array items => '[' :: commaJoin (printItems items) ++ [']']
  | .object members => '\x7b' :: commaJoin (printMembers members) ++ ['\x7d']

def printItems : List Tree → List (List Char)
  | [] => []
  | item :: rest => item.print :: printItems rest

def printMembers : List (String × Tree) → List (List Char)
  | [] => []
  | (key, tree) :: rest => (printString key ++ ':' :: tree.print) :: printMembers rest

end

def text (tree : Tree) : String :=
  String.ofList tree.print

end Tree

end CitedChat.Json

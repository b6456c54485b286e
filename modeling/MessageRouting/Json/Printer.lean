import MessageRouting.Json.Basic
import MessageRouting.Number.Notation

/-!
# Printing JSON

The compact form has no blanks. Only quotes, backslashes and control
characters are escaped; every other character stands for itself.
-/

namespace MessageRouting.Json

/-- A lower-case hexadecimal digit. -/
def hexDigit (n : Nat) : Char :=
  if n < 10 then Char.ofNat ('0'.toNat + n) else Char.ofNat ('a'.toNat + (n - 10))

/-- One character of a quoted text. -/
def escapeChar (c : Char) : List Char :=
  match c with
  | '"' => ['\\', '"']
  | '\\' => ['\\', '\\']
  | '\x08' => ['\\', 'b']
  | '\x0c' => ['\\', 'f']
  | '\n' => ['\\', 'n']
  | '\r' => ['\\', 'r']
  | '\t' => ['\\', 't']
  | _ =>
      if c.toNat < 0x20 then
        ['\\', 'u', '0', '0', hexDigit (c.toNat / 16), hexDigit (c.toNat % 16)]
      else [c]

def quote (text : String) : List Char :=
  '"' :: (text.toList.flatMap escapeChar ++ ['"'])

mutual

/-- The compact form of a document. -/
def chars : Json → List Char
  | null => "null".toList
  | bool true => "true".toList
  | bool false => "false".toList
  | int value => Text.intChars value
  | float value => value.jsonChars
  | string value => quote value
  | array [] => ['[', ']']
  | array (first :: rest) => '[' :: (chars first ++ tailItems rest ++ [']'])
  | object [] => ['{', '}']
  | object ((name, first) :: rest) =>
      '{' :: (quote name ++ ':' :: chars first ++ tailMembers rest ++ ['}'])

/-- The items after the first one, each behind a comma. -/
def tailItems : List Json → List Char
  | [] => []
  | item :: rest => ',' :: (chars item ++ tailItems rest)

/-- The members after the first one, each behind a comma. -/
def tailMembers : List (String × Json) → List Char
  | [] => []
  | (name, value) :: rest => ',' :: (quote name ++ ':' :: chars value ++ tailMembers rest)

end

def compact (document : Json) : String :=
  String.ofList document.chars

end MessageRouting.Json

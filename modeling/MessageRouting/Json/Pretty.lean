import MessageRouting.Json.Printer

/-!
# Indented JSON

Documents laid out for people: every item and every member on a line of its own,
indented by two blanks for each level. Empty arrays and objects stay on one line.
-/

namespace MessageRouting.Json

def lineBreak (level : Nat) : List Char :=
  '\n' :: List.replicate (2 * level) ' '

mutual

def prettyChars (level : Nat) : Json → List Char
  | array [] => ['[', ']']
  | array (item :: rest) =>
      '[' :: lineBreak (level + 1) ++ prettyChars (level + 1) item ++ prettyItems level rest
  | object [] => ['\x7b', '\x7d']
  | object ((name, value) :: rest) =>
      '\x7b' :: lineBreak (level + 1) ++ quote name ++ [':', ' '] ++
        prettyChars (level + 1) value ++ prettyMembers level rest
  | document => chars document

/-- The items behind the first one, and the closing bracket. -/
def prettyItems (level : Nat) : List Json → List Char
  | [] => lineBreak level ++ [']']
  | item :: rest =>
      ',' :: lineBreak (level + 1) ++ prettyChars (level + 1) item ++ prettyItems level rest

/-- The members behind the first one, and the closing brace. -/
def prettyMembers (level : Nat) : List (String × Json) → List Char
  | [] => lineBreak level ++ ['\x7d']
  | (name, value) :: rest =>
      ',' :: lineBreak (level + 1) ++ quote name ++ [':', ' '] ++
        prettyChars (level + 1) value ++ prettyMembers level rest

end

/-- The document laid out for people. -/
def pretty (document : Json) : String :=
  String.ofList (prettyChars 0 document)

end MessageRouting.Json

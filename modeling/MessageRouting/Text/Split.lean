/-!
# Splitting text at a separator
-/

namespace MessageRouting.Text

/-- The pieces of a text between separators; a text without separator is one piece. -/
def splitAt (separator : Char) : List Char → List (List Char)
  | [] => [[]]
  | c :: rest =>
      if c = separator then [] :: splitAt separator rest
      else
        match splitAt separator rest with
        | piece :: pieces => (c :: piece) :: pieces
        | [] => [[c]]

def splitOnce? (separator : Char) : List Char → Option (List Char × List Char)
  | [] => none
  | c :: rest =>
      if c = separator then some ([], rest)
      else (splitOnce? separator rest).map fun (before, behind) => (c :: before, behind)

end MessageRouting.Text

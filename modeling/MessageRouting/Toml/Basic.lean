import MessageRouting.Number.Binary64

/-!
# Configuration values

The values of a configuration text: what stands behind a key, and the lines
that say which key has which value.
-/

namespace MessageRouting

inductive Toml where
  | string (value : String)
  | integer (value : Int)
  | float (value : Binary64)
  | boolean (value : Bool)
  | moment
  | array (items : List Toml)
  | table (entries : List (String × Toml))
deriving Inhabited

namespace Toml

/-- A dotted key: a name for each level. -/
abbrev Path := List String

inductive Line where
  | tableHeader (path : Path)
  | arrayHeader (path : Path)
  | assignment (path : Path) (value : Toml)

end Toml

end MessageRouting

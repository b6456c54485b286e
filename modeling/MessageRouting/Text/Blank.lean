/-!
# Blank characters

The characters with the Unicode property White_Space, and trimming by that
property. Every reader of numbers, levels and delay patterns trims this way.
-/

namespace MessageRouting.Text

/-- Closed ranges of the code points with the property White_Space, ascending and apart. -/
def blankRanges : List (Nat × Nat) :=
  [(0x09, 0x0D), (0x20, 0x20), (0x85, 0x85), (0xA0, 0xA0), (0x1680, 0x1680), (0x2000, 0x200A),
    (0x2028, 0x2029), (0x202F, 0x202F), (0x205F, 0x205F), (0x3000, 0x3000)]

/-- A character with the property White_Space. -/
def isBlank (c : Char) : Bool :=
  blankRanges.any fun range => range.1 ≤ c.toNat && c.toNat ≤ range.2

def trimChars (chars : List Char) : List Char :=
  ((chars.dropWhile isBlank).reverse.dropWhile isBlank).reverse

/-- Text without the blanks at its two ends. -/
def trim (text : String) : String :=
  String.ofList (trimChars text.toList)

def isAllBlank (text : String) : Bool :=
  text.toList.all isBlank

theorem trimChars_eq_nil_of_all_blank {chars : List Char} (blank : chars.all isBlank = true) :
    trimChars chars = [] := by
  have dropped : chars.dropWhile isBlank = [] := by
    induction chars with
    | nil => rfl
    | cons head tail inductionHypothesis =>
        simp only [List.all_cons, Bool.and_eq_true] at blank
        simp [blank.1, inductionHypothesis blank.2]
  simp [trimChars, dropped]

/-- Lower-cases the letters A to Z and leaves every other character alone. -/
def lowerAscii (text : String) : String :=
  String.ofList (text.toList.map fun c =>
    if 'A' ≤ c ∧ c ≤ 'Z' then Char.ofNat (c.toNat + 32) else c)

end MessageRouting.Text

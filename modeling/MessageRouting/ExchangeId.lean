import MessageRouting.Json.Printer

/-!
# Generated ids

Exchanges, and messages without an id of their own, are numbered. A number is
written in the usual form of a random unique id, and different numbers are
written differently as long as they fit 48 bits.
-/

namespace MessageRouting

/-- `width` hexadecimal digits of a number, the most significant first. -/
def hexDigits : Nat → Nat → List Char
  | 0, _ => []
  | width + 1, n => hexDigits width (n / 16) ++ [Json.hexDigit (n % 16)]

/-- The written form of the id with the given number. -/
def generatedId (number : Nat) : String :=
  "00000000-0000-4000-8000-" ++ String.ofList (hexDigits 12 number)

structure ExchangeId where
  number : Nat
deriving DecidableEq, Repr, Inhabited

def ExchangeId.text (id : ExchangeId) : String :=
  generatedId id.number

end MessageRouting

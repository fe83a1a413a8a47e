import SidecarProxy.Message.Headers

/-!
# The signature of a sidecar

A sidecar signs what it sends to other modules with a value of its own, and so
recognises a request that comes back to it.
-/

namespace SidecarProxy
namespace Message

/-- The name of the field with the signature. -/
def signatureName : String := "x-okapi-sidecar-signature"

/-- The value by which a sidecar knows its own requests. -/
structure Signature where
  value : String
  deriving DecidableEq, Repr, Inhabited

namespace Signature

/-- Whether one of the signatures is this sidecar's own. -/
def signed (s : Signature) (hs : Headers) : Bool :=
  (hs.valuesOf signatureName).any (· == s.value)

/-- Puts the signature in place of any other, if there is room for it. -/
def sign? (s : Signature) (hs : Headers) : Option Headers :=
  hs.put? signatureName s.value

/-- The digits of a number in base 16, as many as asked for. -/
def hexDigits (count n : Nat) : List Char :=
  match count with
  | 0 => []
  | k + 1 => hexDigits k (n / 16) ++ [Nat.digitChar (n % 16)]

/--
A signature made from 128 random bits: groups of 8, 4, 4, 4 and 12 digits, with
the marks of a random identifier (version 4, variant 1) in place of six bits.
-/
def ofRandom (bits : Nat) : Signature :=
  let group := fun (skip count : Nat) => hexDigits count (bits / Nat.pow 16 skip)
  let version := '4' :: hexDigits 3 (bits / Nat.pow 16 16)
  let variant := hexDigits 1 (8 + bits / Nat.pow 16 15 % 4) ++ hexDigits 3 (bits / Nat.pow 16 12)
  ⟨String.ofList (group 24 8 ++ '-' :: group 20 4 ++ '-' :: version ++ '-' :: variant ++
    '-' :: group 0 12)⟩

end Signature
end Message
end SidecarProxy

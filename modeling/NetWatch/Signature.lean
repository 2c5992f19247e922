/-
NetWatch.Signature — signed messages: HMAC-SHA256 in hexadecimal digits (`sign`,
`verify`).

A signature belongs to a secret and a message. It is written with lower-case
digits and accepted in either case.
-/
import NetWatch.Signature.Sha256
import NetWatch.Text.Hex

namespace NetWatch.Signature

/-- A key of exactly one block: a longer one is hashed first, a shorter one filled up with zeros. -/
def blockKey (key : List UInt8) : List UInt8 :=
  let k := if 64 < key.length then Sha256.digest key else key
  k ++ List.replicate (64 - k.length) 0

def mac (key message : List UInt8) : List UInt8 :=
  let k := blockKey key
  let inner := Sha256.digest (k.map (· ^^^ 0x36) ++ message)
  Sha256.digest (k.map (· ^^^ 0x5c) ++ inner)

def sign (secret message : List UInt8) : String :=
  String.ofList (Text.Hex.encode (mac secret message))

/-- Whether a text is the signature of a message. -/
def verify (secret message : List UInt8) (signature : String) : Bool :=
  match Text.Hex.decode signature.toList with
  | some bytes => bytes == mac secret message
  | none => false

/-! ## Laws -/

theorem length_mac (key message : List UInt8) : (mac key message).length = 32 :=
  Sha256.length_digest _

/-- **A message is verified by its signature.** -/
theorem verify_sign (secret message : List UInt8) :
    verify secret message (sign secret message) = true := by
  unfold verify sign
  rw [String.toList_ofList, Text.Hex.decode_encode]
  exact beq_self_eq_true _

end NetWatch.Signature

import Gatehouse.Sha256
import Gatehouse.Text.Base64
import Gatehouse.Text.Utf8

/-
  Proof keys and random tokens.

  Random octets are written in the alphabet that is safe in
  URLs.  A login keeps a verifier and shows its challenge,
  the digest of the verifier; who exchanges the code later
  must present the verifier.

  Key definitions include:
    * `Login.tokenOf`
    * `Login.challenge`
-/

namespace Gatehouse

namespace Login

/- The text of drawn octets. -/
def tokenOf
    (bs : List UInt8) : String :=
  Base64.encode Base64.urlSafe bs

/- The challenge of a verifier. -/
def challenge
    (verifier : String) : String :=
  tokenOf (Sha256.digest (Utf8.encode verifier))

/- The octets drawn for a verifier. -/
def verifierOctets : Nat :=
  32

/- The octets drawn for a state. -/
def stateOctets : Nat :=
  24

/- The number of characters of a token. -/
theorem length_tokenOf
    (bs : List UInt8) :
    (tokenOf bs).length = (4 * bs.length + 2) / 3 := by
  simp only [tokenOf, Base64.encode, String.length_ofList]
  exact Base64.length_encodeChars_urlSafe bs

end Login

end Gatehouse

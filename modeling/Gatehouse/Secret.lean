/-
  Secret values and shortened tokens.

  A secret prints as a fixed mark, whatever it holds.  A
  token in a log line is cut to its first characters, so
  that lines can be matched and the token cannot be used.

  Key definitions include:
    * `Secret`
    * `Secret.shown`
    * `redact`
-/

namespace Gatehouse

------------------------------------------------------------
-- Secrets
------------------------------------------------------------

/- A text that must not be printed. -/
structure Secret where
  hide ::
  reveal : String
  deriving DecidableEq

namespace Secret

/- What stands for every secret in print. -/
def mark : String :=
  "[REDACTED]"

/- A secret prints as the mark. -/
def shown
    (_ : Secret) : String :=
  mark

/- Does the secret hold no character? -/
def isEmpty
    (s : Secret) : Bool :=
  s.reveal.isEmpty

end Secret

------------------------------------------------------------
-- Shortened Tokens
------------------------------------------------------------

/- The number of characters of a token that may be shown. -/
def redactedLength : Nat :=
  8

/- What stands for a token too short to be cut. -/
def shortToken : String :=
  "[short]"

/-
  The first characters of a token and an ellipsis, or a
  fixed mark where nothing would be cut off.
-/
def redact
    (token : String) : String :=
  let shown :=
    String.ofList (token.toList.take redactedLength)
  if shown.utf8ByteSize < token.utf8ByteSize then
    shown ++ "…"
  else
    shortToken

end Gatehouse

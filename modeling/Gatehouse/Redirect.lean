import Gatehouse.Refusal
import Gatehouse.Text.Blank
import Gatehouse.Url.Parser

/-
  Where a login may return to.

  A policy lists the accepted beginnings of a return
  address.  Without entries, only addresses that begin like
  one of the local machine are accepted.

  Key definitions include:
    * `Redirect.Policy`
    * `Redirect.Policy.ofEntries`
    * `Redirect.Policy.ofText`
    * `Redirect.Policy.admits`
    * `Redirect.Policy.check`
-/

namespace Gatehouse

namespace Redirect

/- The accepted beginnings of a return address. -/
structure Policy where
  allowed : List String
  deriving DecidableEq, Repr

/- The beginnings accepted by a policy without entries. -/
def localBeginnings : List String :=
  ["http://localhost",
   "https://localhost",
   "http://127.0.0.1",
   "https://127.0.0.1"]

/- The trimmed entries of a list that are not empty. -/
def kept
    (entries : List String) : List String :=
  (entries.map Text.trim).filter (!·.isEmpty)

/- The texts between commas. -/
def splitCommas
    (s : String) : List String :=
  (Text.fields ',' s.toList).map String.ofList

namespace Policy

/- A policy from a list of entries. -/
def ofEntries
    (entries : List String) : Policy :=
  ⟨kept entries⟩

/- A policy from entries separated by commas. -/
def ofText
    (s : String) : Policy :=
  ofEntries (splitCommas s)

/- The policy without entries. -/
def localOnly : Policy :=
  ⟨[]⟩

/- The beginnings that a policy accepts. -/
def beginnings
    (p : Policy) : List String :=
  if p.allowed.isEmpty then localBeginnings else p.allowed

/- Does an address begin as the policy wants? -/
def admits
    (p : Policy)
    (address : String) : Bool :=
  p.beginnings.any
    (fun b => b.toList.isPrefixOf address.toList)

/- Is the address absolute, with a host? -/
def isAbsolute
    (address : String) : Bool :=
  match Url.parse address with
  | .error _ => false
  | .ok u => u.hasHost

/- May a login return to the address? -/
def check
    (p : Policy)
    (address : String) : Except Refusal Unit :=
  if address.isEmpty then
    .error (.badRequest "missing redirect_uri")
  else if !isAbsolute address then
    .error (.badRequest "invalid redirect_uri")
  else if !p.admits address then
    .error (.forbidden "redirect_uri not allowed")
  else
    .ok ()

/- What is accepted begins as the policy wants. -/
theorem admits_of_check
    (p : Policy)
    (address : String)
    (h : p.check address = .ok ()) :
    p.admits address = true := by
  unfold check at h
  split at h
  · simp at h
  · split at h
    · simp at h
    · split at h
      · simp at h
      · simpa using ‹¬(!p.admits address) = true›

end Policy

end Redirect

end Gatehouse

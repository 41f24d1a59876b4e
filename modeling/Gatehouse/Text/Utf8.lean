/-
  UTF-8 text in octets.

  Octets are read one at a time.  Each character that is
  complete is delivered, and each longest run of octets that
  cannot be completed to a character is delivered as one
  fault.  A fault is written `none`.

  Key definitions include:
    * `Utf8.units`
    * `Utf8.decode?`
    * `Utf8.decodeLossy`
    * `Utf8.encode`
-/

namespace Gatehouse

namespace Utf8

------------------------------------------------------------
-- Reading One Octet
------------------------------------------------------------

/-
  What is owed inside a character: the number of octets, the
  bounds on the next one, and the value of those read.
-/
structure Pending where
  owed : Nat
  least : Nat
  greatest : Nat
  value : Nat
  deriving DecidableEq, Repr

/- Read an octet between two characters. -/
def first
    (b : Nat) :
    List (Option Char) × Option Pending :=
  if b < 0x80 then
    ([some (Char.ofNat b)], none)
  else if b < 0xC2 then
    ([none], none)
  else if b < 0xE0 then
    ([], some ⟨1, 0x80, 0xBF, b - 0xC0⟩)
  else if b < 0xF0 then
    let least := if b = 0xE0 then 0xA0 else 0x80
    let greatest := if b = 0xED then 0x9F else 0xBF
    ([], some ⟨2, least, greatest, b - 0xE0⟩)
  else if b < 0xF5 then
    let least := if b = 0xF0 then 0x90 else 0x80
    let greatest := if b = 0xF4 then 0x8F else 0xBF
    ([], some ⟨3, least, greatest, b - 0xF0⟩)
  else
    ([none], none)

/-
  Read an octet.  One that cannot continue the character in
  progress ends that character with a fault and is read
  again between two characters.
-/
def step
    (st : Option Pending)
    (b : Nat) :
    List (Option Char) × Option Pending :=
  match st with
  | none => first b
  | some p =>
      if p.least ≤ b && b ≤ p.greatest then
        let value := p.value * 64 + (b - 0x80)
        if p.owed ≤ 1 then
          ([some (Char.ofNat value)], none)
        else
          ([], some ⟨p.owed - 1, 0x80, 0xBF, value⟩)
      else
        let (out, next) := first b
        (none :: out, next)

------------------------------------------------------------
-- Reading a Text
------------------------------------------------------------

/- The characters and faults that follow a state. -/
def unitsFrom :
    Option Pending → List UInt8 → List (Option Char)
  | none, [] => []
  | some _, [] => [none]
  | st, b :: bs =>
      let (out, next) := step st b.toNat
      out ++ unitsFrom next bs

/- The characters and faults of a list of octets. -/
def units
    (bs : List UInt8) : List (Option Char) :=
  unitsFrom none bs

/- All characters, unless there is a fault among them. -/
def whole :
    List (Option Char) → Option (List Char)
  | [] => some []
  | none :: _ => none
  | some c :: us => (whole us).map (c :: ·)

/- The text of the octets, if they are UTF-8. -/
def decode?
    (bs : List UInt8) : Option String :=
  (whole (units bs)).map String.ofList

/- The text of the octets with U+FFFD for each fault. -/
def decodeLossy
    (bs : List UInt8) : String :=
  String.ofList
    ((units bs).map (fun u => u.getD (Char.ofNat 0xFFFD)))

/- The octets of a text. -/
def encode
    (s : String) : List UInt8 :=
  s.toList.flatMap String.utf8EncodeChar

/- A list of characters without a fault is whole. -/
@[simp]
theorem whole_map_some
    (cs : List Char) :
    whole (cs.map some) = some cs := by
  induction cs with
  | nil => rfl
  | cons c cs ih => simp [whole, ih]

end Utf8

end Gatehouse

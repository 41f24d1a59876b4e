/-
  Readings of what documents are made of.

  A part of a document is read as something, or it is at
  fault.  Here is what holds of all readings, whatever the
  parts and whatever they stand for.

  Key definitions include:
    * `Reading.all?`
    * `Reading.orDefault`
    * `Reading.required`
-/

namespace Gatehouse

namespace Reading

variable {ρ α : Type}

/- All of a list of readings. -/
def all? :
    List (Option α) → Option (List α)
  | [] => some []
  | none :: _ => none
  | some a :: rest => (all? rest).map (a :: ·)

/- A field with a value that stands for its absence. -/
def orDefault
    (read : ρ → Option α)
    (default : α) :
    Option ρ → Option α
  | none => some default
  | some part => read part

/- A field that must be present. -/
def required
    (read : ρ → Option α)
    (field : Option ρ) : Option α :=
  field.bind read

/- A required field is there and reads. -/
theorem required_eq_some_iff
    {read : ρ → Option α}
    {field : Option ρ}
    {a : α} :
    required read field = some a ↔
      ∃ part, field = some part ∧ read part = some a :=
  Option.bind_eq_some_iff

end Reading

end Gatehouse

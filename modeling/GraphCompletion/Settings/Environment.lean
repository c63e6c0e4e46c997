import GraphCompletion.Text.Basic

/-!
# Environments

Named variables in the order in which they were first set. Setting a variable again keeps its place.
-/
namespace GraphCompletion

/-- Variables with their values. -/
abbrev Environment := List (Text × Text)

namespace Environment

/-- The entries with a name's value set: in the place of that name, or at the end. -/
def put {α : Type} (name : Text) (value : α) : List (Text × α) → List (Text × α)
  | [] => [(name, value)]
  | entry :: rest =>
    if entry.1 = name then (name, value) :: rest else entry :: put name value rest

/-- The value of a name. -/
def get? {α : Type} (name : Text) (entries : List (Text × α)) : Option α :=
  (entries.find? fun entry => entry.1 = name).map (·.2)

@[simp] theorem get?_put_self {α : Type} (name : Text) (value : α) (entries : List (Text × α)) :
    get? name (put name value entries) = some value := by
  induction entries with
  | nil => simp [put, get?]
  | cons entry rest ih =>
    rw [put]
    split
    · simp [get?]
    · next other => simpa [get?, other] using ih

theorem get?_put_of_ne {α : Type} {name other : Text} (different : other ≠ name) (value : α)
    (entries : List (Text × α)) : get? other (put name value entries) = get? other entries := by
  induction entries with
  | nil => simp [put, get?, Ne.symm different]
  | cons entry rest ih =>
    rw [put]
    split
    · next same => simp [get?, same, Ne.symm different]
    · by_cases found : entry.1 = other
      · simp [get?, found]
      · simpa [get?, found] using ih

end Environment
end GraphCompletion

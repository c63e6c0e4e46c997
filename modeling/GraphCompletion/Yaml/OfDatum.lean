import GraphCompletion.Yaml.Document

/-!
# Untyped values as documents

A value handed in by a host holds no part twice, so every part of it becomes a cell of its own.
-/
namespace GraphCompletion.Yaml.Document

/-- A scalar cell added to cells, and its number. -/
def addScalar (value : Scalar) (cells : Array Cell) : Nat × Array Cell :=
  (cells.size, cells.push (.scalar value))

mutual

/-- The cells of a value added to cells, and the number of the outermost one. -/
def addDatum : Datum → Array Cell → Nat × Array Cell
  | .null, cells => addScalar .null cells
  | .bool b, cells => addScalar (.bool b) cells
  | .int i, cells => addScalar (.int i) cells
  | .float d, cells => addScalar (.float d) cells
  | .text t, cells => addScalar (.text t) cells
  | .list items, cells =>
    let (ids, cells) := addItems items cells
    (cells.size, cells.push (.sequence ids))
  | .mapping fields, cells =>
    let (entries, cells) := addFields fields cells
    (cells.size, cells.push (.mapping entries))

def addItems : List Datum → Array Cell → List Nat × Array Cell
  | [], cells => ([], cells)
  | item :: rest, cells =>
    let (id, cells) := addDatum item cells
    let (ids, cells) := addItems rest cells
    (id :: ids, cells)

def addFields : List (Text × Datum) → Array Cell → List (Nat × Nat) × Array Cell
  | [], cells => ([], cells)
  | (name, value) :: rest, cells =>
    let (key, cells) := addScalar (.text name) cells
    let (id, cells) := addDatum value cells
    let (entries, cells) := addFields rest cells
    ((key, id) :: entries, cells)

end

/-- A value as a document. -/
def ofDatum (value : Datum) : Document :=
  let (root, cells) := addDatum value #[]
  ⟨cells, root⟩

end GraphCompletion.Yaml.Document

import GraphCompletion.Entities.Basic
import GraphCompletion.Section
import GraphCompletion.Yaml.Document

/-!
# Entities of a document

A graph is a mapping with a list of nodes and a list of links; a node that is a mapping is a graph
itself. The names of all nodes of all graphs that can be reached from the root are collected, and for
each name the ports that links refer to. A document may contain itself: every graph is visited once.
Graphs may stand in one another, also through aliases, as deep as they like: what a visit takes of the
stack is not counted here.
-/
namespace GraphCompletion.Entities

open Yaml

/-- The graphs right inside a graph. -/
def innerGraphs (d : Document) (graph : Nat) : List Nat :=
  ((d.listField? graph "nodes").getD []).filter fun id => d.isMapping id

/-- How many cells of a document are not among those seen. -/
def unseen (d : Document) (seen : List Nat) : Nat :=
  ((List.range d.cells.size).filter fun id => !seen.contains id).length

theorem lt_size_of_isMapping {d : Document} {id : Nat} (held : d.isMapping id = true) :
    id < d.cells.size := by
  apply Classical.byContradiction
  intro outside
  have missing : d.cell id = .scalar .null := by
    simp [Document.cell, Array.getD, outside]
  simp [Document.isMapping, missing] at held

theorem unseen_cons_lt {d : Document} {seen : List Nat} {id : Nat} (inside : id < d.cells.size)
    (fresh : seen.contains id = false) : unseen d (id :: seen) < unseen d seen := by
  have split_filter : (List.range d.cells.size).filter (fun i => !(id :: seen).contains i) =
      ((List.range d.cells.size).filter fun i => !seen.contains i).filter fun i => i != id := by
    rw [List.filter_filter]
    congr 1
    funext i
    by_cases same : i = id <;> simp [same]
  simp only [unseen, split_filter]
  apply List.length_filter_lt_length_iff_exists.2
  exact ⟨id, by simpa using ⟨inside, by simpa using fresh⟩, by simp⟩

/-- The graphs that can be reached from those waiting, without passing one that is seen. -/
def reach (d : Document) (waiting seen : List Nat) : List Nat :=
  match waiting with
  | [] => seen
  | id :: rest =>
    if _ : seen.contains id || !d.isMapping id then reach d rest seen
    else reach d (innerGraphs d id ++ rest) (id :: seen)
termination_by (unseen d seen, waiting.length)
decreasing_by
  · exact Prod.Lex.right _ (by simp)
  · rename_i skipped
    simp only [Bool.or_eq_true, Bool.not_eq_true', not_or, Bool.not_eq_false,
      Bool.not_eq_true] at skipped
    exact Prod.Lex.left _ _ (unseen_cons_lt (lt_size_of_isMapping skipped.2) skipped.1)

/-- All graphs of a document. -/
def graphs (d : Document) : List Nat := reach d [d.root] []

/-- The name of an item of a nodes list: the item itself, or its name field. -/
def nodeName? (d : Document) (item : Nat) : Option Text :=
  (d.text? item).or ((d.field? item "name").bind d.text?)

/-- The names in a graph's own nodes list. -/
def namesIn (d : Document) (graph : Nat) : List Text :=
  ((d.listField? graph "nodes").getD []).filterMap (nodeName? d)

/-- The links of a graph, under either of their names. -/
def linksIn (d : Document) (graph : Nat) : List Nat :=
  ((d.listField? graph "links").or (d.listField? graph "edges")).getD []

/-- A node and a port in a text `node:port`, both there. -/
def port? (t : Text) : Option (Text × Text) :=
  match Text.cutAt ':' t with
  | (name, some port) => if name.isEmpty || port.isEmpty then none else some (name, port)
  | _ => none

/-- The nodes and ports that a graph's links refer to. -/
def portsIn (d : Document) (graph : Nat) : List (Text × Text) :=
  (linksIn d graph).flatMap fun link =>
    ["from".toList, "to".toList].filterMap fun name =>
      ((d.field? link name).bind d.text?).bind port?

/-- The ports used with a name, if any are. -/
def portsOf (used : List (Text × Text)) (name : Text) : Option (Text × List Text) :=
  match Text.sortedSet (used.filterMap fun use => if use.1 = name then some use.2 else none) with
  | [] => none
  | ports => some (name, ports)

/-- The names and ports of a document. A port of a name that no node has is left out. -/
def ofDocument (d : Document) : Entities :=
  let all := graphs d
  let names := Text.sortedSet (all.flatMap (namesIn d))
  let used := all.flatMap (portsIn d)
  ⟨names, names.filterMap (portsOf used)⟩

end GraphCompletion.Entities

import GraphCompletion.Entities.Extraction
import Mathlib.Logic.Basic

/-!
# Graphs that can be reached

The walk over a document keeps a list of the graphs it has seen and one of those that wait. However the
document is built, also where it contains itself, the walk ends with every graph that can be reached
from the root, and with nothing else. What carries this is that a graph that is seen has all its inner
graphs among the seen or the waiting ones.
-/
namespace GraphCompletion.Entities

open Yaml

variable {d : Document} {waiting seen : List Nat} {id : Nat}

/-- A graph of a document: the root, if that is a mapping, and every mapping in the nodes list of a
graph. -/
inductive IsGraph (d : Document) : Nat → Prop
  | root (mapping : d.isMapping d.root = true) : IsGraph d d.root
  | inner {graph node : Nat} {nodes : List Nat} (outer : IsGraph d graph)
      (list : d.listField? graph "nodes" = some nodes) (member : node ∈ nodes)
      (mapping : d.isMapping node = true) : IsGraph d node

theorem mem_innerGraphs_iff {graph node : Nat} : node ∈ innerGraphs d graph ↔
    ∃ nodes, d.listField? graph "nodes" = some nodes ∧ node ∈ nodes ∧ d.isMapping node = true := by
  unfold innerGraphs
  rw [List.mem_filter]
  cases list : d.listField? graph "nodes" with
  | none => simp
  | some nodes => simp

/-- What is seen or waits still does when the first that waits is passed over for being seen. -/
theorem seen_or_waiting_skip {other : Nat} (place : other ∈ seen ∨ other ∈ id :: waiting)
    (passed : other = id → id ∈ seen) : other ∈ seen ∨ other ∈ waiting := by
  rcases place with known | next
  · exact .inl known
  · rcases List.mem_cons.1 next with same | later
    · rw [same]
      exact .inl (passed same)
    · exact .inr later

/-- What is seen or waits still does when the first that waits is seen and others come before it. -/
theorem seen_or_waiting_visit {other : Nat} (place : other ∈ seen ∨ other ∈ id :: waiting)
    (added : List Nat) : other ∈ id :: seen ∨ other ∈ added ++ waiting := by
  rcases place with known | next
  · exact .inl (List.mem_cons_of_mem id known)
  · rcases List.mem_cons.1 next with same | later
    · rw [same]
      exact .inl List.mem_cons_self
    · exact .inr (List.mem_append_right added later)

/-- What holds at every step of the walk. -/
structure Walk (d : Document) (waiting seen : List Nat) : Prop where
  sound : ∀ id ∈ seen, IsGraph d id
  onward : ∀ id ∈ waiting, d.isMapping id = true → IsGraph d id
  root : d.isMapping d.root = true → d.root ∈ seen ∨ d.root ∈ waiting
  closed : ∀ graph ∈ seen, ∀ node ∈ innerGraphs d graph, node ∈ seen ∨ node ∈ waiting
  once : seen.Nodup

namespace Walk

theorem start (d : Document) : Walk d [d.root] [] where
  sound := by simp
  onward := by
    intro id member mapping
    obtain rfl := List.mem_singleton.1 member
    exact .root mapping
  root := fun _ => .inr (List.mem_singleton.2 rfl)
  closed := by simp
  once := List.nodup_nil

/-- A cell that was seen, or is no graph, can be passed over. -/
theorem skip (walk : Walk d (id :: waiting) seen)
    (passed : d.isMapping id = true → id ∈ seen) : Walk d waiting seen where
  sound := walk.sound
  onward := fun other member => walk.onward other (List.mem_cons_of_mem id member)
  root := by
    intro mapping
    apply seen_or_waiting_skip (walk.root mapping)
    intro same
    exact passed (same ▸ mapping)
  closed := by
    intro graph member node inner
    apply seen_or_waiting_skip (walk.closed graph member node inner)
    intro same
    obtain ⟨_, _, _, mapping⟩ := mem_innerGraphs_iff.1 inner
    exact passed (same ▸ mapping)
  once := walk.once

/-- Seeing a graph for the first time puts its inner graphs before those that wait. -/
theorem visit (walk : Walk d (id :: waiting) seen) (fresh : id ∉ seen)
    (mapping : d.isMapping id = true) : Walk d (innerGraphs d id ++ waiting) (id :: seen) where
  sound := by
    intro graph member
    rcases List.mem_cons.1 member with rfl | known
    · exact walk.onward graph List.mem_cons_self mapping
    · exact walk.sound graph known
  onward := by
    intro node member isMapping
    rcases List.mem_append.1 member with inner | later
    · obtain ⟨nodes, list, listed, _⟩ := mem_innerGraphs_iff.1 inner
      exact .inner (walk.onward id List.mem_cons_self mapping) list listed isMapping
    · exact walk.onward node (List.mem_cons_of_mem id later) isMapping
  root := fun rootMapping => seen_or_waiting_visit (walk.root rootMapping) _
  closed := by
    intro graph member node inner
    rcases List.mem_cons.1 member with rfl | known
    · exact .inr (List.mem_append_left waiting inner)
    · exact seen_or_waiting_visit (walk.closed graph known node inner) _
  once := List.nodup_cons.2 ⟨fresh, walk.once⟩

/-- The walk goes on until nothing waits. -/
theorem reach (walk : Walk d waiting seen) : Walk d [] (reach d waiting seen) := by
  fun_induction Entities.reach d waiting seen with
  | case1 seen => exact walk
  | case2 seen id rest passed ih =>
    apply ih
    apply walk.skip
    intro mapping
    simpa [mapping] using passed
  | case3 seen id rest fresh ih =>
    simp only [Bool.or_eq_true, List.contains_iff_mem, Bool.not_eq_true', not_or,
      Bool.not_eq_false] at fresh
    exact ih (walk.visit fresh.1 fresh.2)

end Walk

theorem walk_graphs (d : Document) : Walk d [] (graphs d) := (Walk.start d).reach

/-- The walk finds the graphs of the document. -/
theorem mem_graphs_iff : id ∈ graphs d ↔ IsGraph d id := by
  have walk := walk_graphs d
  constructor
  · exact walk.sound id
  · intro graph
    induction graph with
    | root mapping => exact (walk.root mapping).resolve_right List.not_mem_nil
    | inner _ list member mapping ih =>
      have inner := mem_innerGraphs_iff.2 ⟨_, list, member, mapping⟩
      exact (walk.closed _ ih _ inner).resolve_right List.not_mem_nil

/-- No graph is visited twice. -/
theorem nodup_graphs (d : Document) : (graphs d).Nodup := (walk_graphs d).once

end GraphCompletion.Entities

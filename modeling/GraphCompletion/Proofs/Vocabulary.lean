import GraphCompletion.Proofs.Reach
import Mathlib.Data.List.Sort
import Mathlib.Data.List.TakeWhile

/-!
# The vocabulary of a document

The names and ports that are collected are exactly those that the graphs of a document hold, each listed
once and in order. So it does not count in which order a list holds its items, how often it holds them,
and whether equal parts of a document are one part that is shared or several.
-/
namespace GraphCompletion

open Yaml

namespace Text

variable {separator : Char} {t before after : Text}

theorem cutAt_append_cons (absent : separator ∉ before) :
    cutAt separator (before ++ separator :: after) = (before, some after) := by
  have passed : ∀ c ∈ before, (c != separator) = true := by
    intro c member
    simpa using fun same : c = separator => absent (same ▸ member)
  simp [cutAt, List.takeWhile_append_of_pos passed, List.dropWhile_append_of_pos passed]

/-- A text is cut at its first separator. -/
theorem cutAt_eq_some_iff : cutAt separator t = (before, some after) ↔
    t = before ++ separator :: after ∧ separator ∉ before := by
  constructor
  · intro cut
    by_cases present : separator ∈ t
    · obtain ⟨first, rest, rfl, absent⟩ := List.eq_append_cons_of_mem present
      rw [cutAt_append_cons absent] at cut
      simp only [Prod.mk.injEq, Option.some.injEq] at cut
      obtain ⟨rfl, rfl⟩ := cut
      exact ⟨rfl, absent⟩
    · have whole : t.dropWhile (· != separator) = [] := by
        apply List.dropWhile_eq_nil_iff.2
        intro c member
        simpa using fun same : c = separator => present (same ▸ member)
      simp [cutAt, whole] at cut
  · rintro ⟨rfl, absent⟩
    exact cutAt_append_cons absent

end Text

namespace Yaml

/-- Two cells hold the same, where `same` relates the cells that they refer to. A sequence may hold its
items in another order, and each of them more or less often. -/
def Cell.Similar (same : Nat → Nat → Prop) : Cell → Cell → Prop
  | .scalar value, .scalar other => value = other
  | .sequence items, .sequence others =>
    (∀ id ∈ items, ∃ other ∈ others, same id other) ∧ ∀ other ∈ others, ∃ id ∈ items, same id other
  | .mapping entries, .mapping others =>
    List.Forall₂ (fun entry other => same entry.1 other.1 ∧ same entry.2 other.2) entries others
  | .members keys, .members others => List.Forall₂ same keys others
  | .pairs entries, .pairs others =>
    List.Forall₂ (fun entry other => same entry.1 other.1 ∧ same entry.2 other.2) entries others
  | _, _ => False

instance (same : Nat → Nat → Prop) [DecidableRel same] (cell other : Cell) :
    Decidable (cell.Similar same other) :=
  match cell, other with
  | .scalar value, .scalar other => inferInstanceAs (Decidable (value = other))
  | .sequence items, .sequence others =>
    inferInstanceAs (Decidable ((∀ id ∈ items, ∃ other ∈ others, same id other) ∧
      ∀ other ∈ others, ∃ id ∈ items, same id other))
  | .mapping entries, .mapping others | .pairs entries, .pairs others =>
    inferInstanceAs (Decidable (List.Forall₂ (fun entry other =>
      same entry.1 other.1 ∧ same entry.2 other.2) entries others))
  | .members keys, .members others => inferInstanceAs (Decidable (List.Forall₂ same keys others))
  | .scalar _, .sequence _ | .scalar _, .mapping _ | .scalar _, .members _ | .scalar _, .pairs _
  | .sequence _, .scalar _ | .sequence _, .mapping _ | .sequence _, .members _ | .sequence _, .pairs _
  | .mapping _, .scalar _ | .mapping _, .sequence _ | .mapping _, .members _ | .mapping _, .pairs _
  | .members _, .scalar _ | .members _, .sequence _ | .members _, .mapping _ | .members _, .pairs _
  | .pairs _, .scalar _ | .pairs _, .sequence _ | .pairs _, .mapping _ | .pairs _, .members _ =>
    inferInstanceAs (Decidable False)

theorem Cell.Similar.symm {same : Nat → Nat → Prop} {cell other : Cell}
    (similar : cell.Similar same other) : other.Similar (fun id before => same before id) cell := by
  cases cell with
  | scalar value =>
    cases other <;> try exact similar.elim
    exact Eq.symm similar
  | sequence items =>
    cases other <;> try exact similar.elim
    exact And.symm similar
  | mapping entries | members keys | pairs entries =>
    cases other <;> try exact similar.elim
    exact List.Forall₂.flip similar

namespace Document

/-- The items of a list. A list of pairs is a list, but holds no items. -/
def items? (d : Document) (id : Nat) : Option (List Nat) :=
  match d.cell id with
  | .sequence items => some items
  | .pairs _ => some []
  | _ => none

theorem listField?_eq_bind (d : Document) (id : Nat) (name : Text) :
    d.listField? id name = (d.field? id name).bind d.items? := by
  unfold listField? items?
  cases d.field? id name with
  | none => rfl
  | some value =>
    simp only [Option.map_some, Option.bind_some]
    cases d.cell value <;> rfl

/-- Two documents hold the same but for the order and the repetition of what their lists hold and for
what is shared in them, where `same` relates their cells. -/
structure SimilarBy (d e : Document) (same : Nat → Nat → Prop) : Prop where
  root : same d.root e.root
  cells : ∀ {id other}, same id other → (d.cell id).Similar same (e.cell other)

/-- Two documents hold the same but for the order and the repetition of what their lists hold and for
what is shared in them. -/
def Similar (d e : Document) : Prop := ∃ same, SimilarBy d e same

namespace SimilarBy

variable {d e : Document} {same : Nat → Nat → Prop} {id other : Nat} {name : Text}

theorem symm (similar : SimilarBy d e same) : SimilarBy e d fun id before => same before id where
  root := similar.root
  cells := fun related => (similar.cells related).symm

theorem text?_eq (similar : SimilarBy d e same) (related : same id other) :
    e.text? other = d.text? id := by
  have cells := similar.cells related
  unfold text?
  cases here : d.cell id <;> cases there : e.cell other <;> rw [here, there] at cells <;>
    simp_all [Cell.Similar]

theorem isMapping_eq (similar : SimilarBy d e same) (related : same id other) :
    e.isMapping other = d.isMapping id := by
  have cells := similar.cells related
  unfold isMapping
  cases here : d.cell id <;> cases there : e.cell other <;> rw [here, there] at cells <;>
    simp_all [Cell.Similar]

/-- Of two lists of related entries both hold a value under a name or neither does. -/
theorem exists_value (similar : SimilarBy d e same) {entries others : List (Nat × Nat)}
    (paired : List.Forall₂ (fun entry other => same entry.1 other.1 ∧ same entry.2 other.2)
      entries others) {value : Nat}
    (found : (entries.find? fun entry => d.text? entry.1 = some name).map (·.2) = some value) :
    ∃ image, (others.find? fun entry => e.text? entry.1 = some name).map (·.2) = some image ∧
      same value image := by
  induction paired with
  | nil => simp at found
  | @cons entry other entries others pair _ ih =>
    have key := similar.text?_eq pair.1
    by_cases named : d.text? entry.1 = some name
    · simp [named] at found
      simp [key, named, ← found, pair.2]
    · simp [named] at found
      simpa [key, named] using ih (by simpa using found)

/-- A field of a mapping is a field of its image, and its value is the image of the value. -/
theorem exists_field? (similar : SimilarBy d e same) (related : same id other) {value : Nat}
    (found : d.field? id name = some value) :
    ∃ image, e.field? other name = some image ∧ same value image := by
  have cells := similar.cells related
  unfold field? at found ⊢
  cases here : d.cell id <;> rw [here] at cells found <;> try simp at found
  cases there : e.cell other <;> rw [there] at cells <;> try exact cells.elim
  exact similar.exists_value cells (by simpa using found)

/-- A list in a field is a list in the image, and every item has an image there. -/
theorem exists_listField? (similar : SimilarBy d e same) (related : same id other) {items : List Nat}
    (found : d.listField? id name = some items) :
    ∃ others, e.listField? other name = some others ∧ ∀ item ∈ items, ∃ image ∈ others, same item image := by
  rw [listField?_eq_bind] at found
  obtain ⟨value, held, list⟩ := Option.bind_eq_some_iff.1 found
  obtain ⟨image, given, values⟩ := similar.exists_field? related held
  rw [listField?_eq_bind, given, Option.bind_some]
  have cells := similar.cells values
  unfold items? at list ⊢
  cases here : d.cell value <;> rw [here] at cells list <;> try simp at list
  · cases there : e.cell image <;> rw [there] at cells <;> try exact cells.elim
    exact ⟨_, rfl, list ▸ cells.1⟩
  · cases there : e.cell image <;> rw [there] at cells <;> try exact cells.elim
    subst list
    exact ⟨[], rfl, by simp⟩

theorem listField?_eq_none (similar : SimilarBy d e same) (related : same id other)
    (absent : d.listField? id name = none) : e.listField? other name = none := by
  by_contra found
  obtain ⟨others, held⟩ := Option.ne_none_iff_exists'.1 found
  obtain ⟨items, given, _⟩ := similar.symm.exists_listField? related held
  rw [absent] at given
  cases given

end SimilarBy
end Document
end Yaml

namespace Entities

open Document

variable {d e : Document} {name port : Text}

/-- A name of a node: an item of a graph's nodes list, or the name of such an item. -/
def IsName (d : Document) (name : Text) : Prop :=
  ∃ graph nodes node, IsGraph d graph ∧ d.listField? graph "nodes" = some nodes ∧ node ∈ nodes ∧
    (d.text? node = some name ∨
      ∃ value, d.field? node "name" = some value ∧ d.text? value = some name)

/-- A link of a graph: an item of its `links` list, or of its `edges` list if `links` is no list. -/
def IsLink (d : Document) (graph link : Nat) : Prop :=
  (∃ links, d.listField? graph "links" = some links ∧ link ∈ links) ∨
    d.listField? graph "links" = none ∧
      ∃ edges, d.listField? graph "edges" = some edges ∧ link ∈ edges

/-- A link of a graph refers to the port of the name at one of its ends. The text there is cut at its
first colon, and something stands on both sides. -/
def IsPort (d : Document) (name port : Text) : Prop :=
  ∃ graph link, IsGraph d graph ∧ IsLink d graph link ∧
    ∃ key ∈ ["from".toList, "to".toList], ∃ value, d.field? link key = some value ∧
      d.text? value = some (name ++ ':' :: port) ∧ ':' ∉ name ∧ name ≠ [] ∧ port ≠ []

/-- The vocabulary of a document: the names in order, and for the names with ports these in order. -/
structure IsVocabulary (d : Document) (entities : Entities) : Prop where
  names : ∀ name, name ∈ entities.nodeNames ↔ IsName d name
  sorted : entities.nodeNames.Pairwise (· < ·)
  ports : ∀ name ports, (name, ports) ∈ entities.portsByNode ↔
    IsName d name ∧ ports ≠ [] ∧ ports.Pairwise (· < ·) ∧ ∀ port, port ∈ ports ↔ IsPort d name port
  keyed : entities.portsByNode.Pairwise fun entry other => entry.1 < other.1

theorem nodeName?_eq_some_iff {node : Nat} : nodeName? d node = some name ↔
    d.text? node = some name ∨
      ∃ value, d.field? node "name" = some value ∧ d.text? value = some name := by
  unfold nodeName?
  cases text : d.text? node with
  | none => simp [Option.bind_eq_some_iff]
  | some own =>
    -- A text is no mapping.
    have noField : d.field? node "name" = none := by
      unfold text? at text
      unfold field?
      split at text
      · next scalar => rw [scalar]
      · cases text
    rw [noField]
    simp

theorem mem_namesIn_iff {graph : Nat} : name ∈ namesIn d graph ↔
    ∃ nodes node, d.listField? graph "nodes" = some nodes ∧ node ∈ nodes ∧
      nodeName? d node = some name := by
  unfold namesIn
  cases list : d.listField? graph "nodes" with
  | none => simp
  | some nodes => simp [List.mem_filterMap]

theorem mem_linksIn_iff {graph link : Nat} : link ∈ linksIn d graph ↔ IsLink d graph link := by
  unfold linksIn IsLink
  cases list : d.listField? graph "links" with
  | none =>
    cases other : d.listField? graph "edges" with
    | none => simp
    | some edges => simp
  | some links => simp

theorem port?_eq_some_iff {t : Text} : port? t = some (name, port) ↔
    t = name ++ ':' :: port ∧ ':' ∉ name ∧ name ≠ [] ∧ port ≠ [] := by
  unfold port?
  constructor
  · intro found
    split at found
    · next before after cut =>
      obtain ⟨whole, absent⟩ := Text.cutAt_eq_some_iff.1 cut
      simp at found
      obtain ⟨filled, rfl, rfl⟩ := found
      exact ⟨whole, absent, filled.1, filled.2⟩
    · cases found
  · rintro ⟨whole, absent, named, filled⟩
    rw [Text.cutAt_eq_some_iff.2 ⟨whole, absent⟩]
    simp [named, filled]

theorem mem_portsIn_iff {graph : Nat} : (name, port) ∈ portsIn d graph ↔
    ∃ link, IsLink d graph link ∧ ∃ key ∈ ["from".toList, "to".toList], ∃ value,
      d.field? link key = some value ∧ d.text? value = some (name ++ ':' :: port) ∧
        ':' ∉ name ∧ name ≠ [] ∧ port ≠ [] := by
  simp only [portsIn, List.mem_flatMap, List.mem_filterMap, mem_linksIn_iff, Option.bind_eq_some_iff,
    port?_eq_some_iff]
  constructor
  · rintro ⟨link, linked, key, known, text, ⟨value, held, given⟩, rfl, form⟩
    exact ⟨link, linked, key, known, value, held, given, form⟩
  · rintro ⟨link, linked, key, known, value, held, given, form⟩
    exact ⟨link, linked, key, known, _, ⟨value, held, given⟩, rfl, form⟩

theorem mem_names_iff : name ∈ (graphs d).flatMap (namesIn d) ↔ IsName d name := by
  simp only [List.mem_flatMap, mem_graphs_iff, mem_namesIn_iff, nodeName?_eq_some_iff, IsName]
  constructor
  · rintro ⟨graph, isGraph, nodes, node, list, member, named⟩
    exact ⟨graph, nodes, node, isGraph, list, member, named⟩
  · rintro ⟨graph, nodes, node, isGraph, list, member, named⟩
    exact ⟨graph, isGraph, nodes, node, list, member, named⟩

theorem mem_used_iff : (name, port) ∈ (graphs d).flatMap (portsIn d) ↔ IsPort d name port := by
  simp only [List.mem_flatMap, mem_graphs_iff, mem_portsIn_iff, IsPort]
  constructor
  · rintro ⟨graph, isGraph, link, linked, refers⟩
    exact ⟨graph, link, isGraph, linked, refers⟩
  · rintro ⟨graph, link, isGraph, linked, refers⟩
    exact ⟨graph, isGraph, link, linked, refers⟩

/-- A text is found in a listing of the seconds by looking for it beside the name. -/
theorem mem_listed_iff {used : List (Text × Text)} :
    port ∈ Text.sortedSet (used.filterMap fun use => if use.1 = name then some use.2 else none) ↔
      (name, port) ∈ used := by
  simp

/-- The ports used with a name are listed in order, if there are any. -/
theorem portsOf_eq_some_iff {used : List (Text × Text)} {ports : List Text} :
    portsOf used name = some (name, ports) ↔ ports ≠ [] ∧ ports.Pairwise (· < ·) ∧
      ∀ port, port ∈ ports ↔ (name, port) ∈ used := by
  have member := fun port => @mem_listed_iff name port used
  have sorted := Text.pairwise_sortedSet
    (used.filterMap fun use => if use.1 = name then some use.2 else none)
  unfold portsOf
  generalize Text.sortedSet _ = listed at member sorted
  constructor
  · intro found
    cases listed with
    | nil => simp at found
    | cons first others =>
      simp only [Option.some.injEq, Prod.mk.injEq, true_and] at found
      subst found
      exact ⟨by simp, sorted, member⟩
  · intro given
    obtain ⟨filled, ordered, members⟩ := given
    have same : ports = listed :=
      ordered.eq_of_mem_iff sorted fun port => (members port).trans (member port).symm
    cases listed with
    | nil => exact absurd same filled
    | cons first others => simp [same]

theorem fst_of_portsOf {used : List (Text × Text)} {entry : Text × List Text}
    (found : portsOf used name = some entry) : entry.1 = name := by
  unfold portsOf at found
  split at found
  · cases found
  · cases found
    rfl

theorem mem_portsByNode_iff {ports : List Text} : (name, ports) ∈ (ofDocument d).portsByNode ↔
    IsName d name ∧ ports ≠ [] ∧ ports.Pairwise (· < ·) ∧
      ∀ port, port ∈ ports ↔ IsPort d name port := by
  simp only [ofDocument, List.mem_filterMap, Text.mem_sortedSet, mem_names_iff]
  constructor
  · intro given
    obtain ⟨known, isName, found⟩ := given
    obtain rfl : name = known := fst_of_portsOf found
    obtain ⟨filled, ordered, members⟩ := portsOf_eq_some_iff.1 found
    exact ⟨isName, filled, ordered, fun port => (members port).trans mem_used_iff⟩
  · intro given
    obtain ⟨isName, filled, ordered, members⟩ := given
    refine ⟨name, isName, portsOf_eq_some_iff.2 ⟨filled, ordered, fun port => ?_⟩⟩
    exact (members port).trans mem_used_iff.symm

/-- What is collected is the vocabulary of the document. -/
theorem isVocabulary_ofDocument (d : Document) : IsVocabulary d (ofDocument d) where
  names := fun name => by simp only [ofDocument, Text.mem_sortedSet, mem_names_iff]
  sorted := Text.pairwise_sortedSet _
  ports := fun _ _ => mem_portsByNode_iff
  keyed := by
    have names : (ofDocument d).nodeNames.Pairwise (· < ·) := Text.pairwise_sortedSet _
    apply List.Pairwise.filterMap _ _ names
    intro name other before entry found entry' found'
    rw [fst_of_portsOf found, fst_of_portsOf found']
    exact before

namespace IsVocabulary

variable {entities others : Entities}

/-- A document has one vocabulary. -/
theorem unique (vocabulary : IsVocabulary d entities) (again : IsVocabulary d others) :
    entities = others := by
  have names : entities.nodeNames = others.nodeNames :=
    vocabulary.sorted.eq_of_mem_iff again.sorted fun name =>
      (vocabulary.names name).trans (again.names name).symm
  have irreflexive : Std.Irrefl fun entry other : Text × List Text => entry.1 < other.1 :=
    ⟨fun entry => List.lt_irrefl entry.1⟩
  have antisymmetric : Std.Antisymm fun entry other : Text × List Text => entry.1 < other.1 :=
    ⟨fun entry _ before after => absurd (List.lt_trans before after) (List.lt_irrefl entry.1)⟩
  have ports : entities.portsByNode = others.portsByNode :=
    vocabulary.keyed.eq_of_mem_iff again.keyed fun entry =>
      (vocabulary.ports entry.1 entry.2).trans (again.ports entry.1 entry.2).symm
  cases entities
  cases others
  simp_all

end IsVocabulary

/-! What similar documents hold -/

variable {same : Nat → Nat → Prop} {id : Nat}

/-- Every graph has an image in a similar document. -/
theorem IsGraph.exists_image (similar : SimilarBy d e same) (graph : IsGraph d id) :
    ∃ image, same id image ∧ IsGraph e image := by
  induction graph with
  | root mapping => exact ⟨e.root, similar.root, .root ((similar.isMapping_eq similar.root).trans mapping)⟩
  | inner _ list member mapping ih =>
    obtain ⟨outer, related, isGraph⟩ := ih
    obtain ⟨others, given, images⟩ := similar.exists_listField? related list
    obtain ⟨image, listed, also⟩ := images _ member
    exact ⟨image, also, .inner isGraph given listed ((similar.isMapping_eq also).trans mapping)⟩

theorem IsLink.exists_image (similar : SimilarBy d e same) {graph link image : Nat}
    (related : same graph image) (linked : IsLink d graph link) :
    ∃ other, same link other ∧ IsLink e image other := by
  rcases linked with ⟨links, list, member⟩ | ⟨absent, edges, list, member⟩
  · obtain ⟨others, given, images⟩ := similar.exists_listField? related list
    obtain ⟨other, listed, also⟩ := images link member
    exact ⟨other, also, .inl ⟨others, given, listed⟩⟩
  · obtain ⟨others, given, images⟩ := similar.exists_listField? related list
    obtain ⟨other, listed, also⟩ := images link member
    exact ⟨other, also, .inr ⟨similar.listField?_eq_none related absent, others, given, listed⟩⟩

/-- A text in a field stands in the same field of the image. -/
theorem exists_text_image (similar : SimilarBy d e same) {image value : Nat} {key text : Text}
    (related : same id image) (held : d.field? id key = some value) (given : d.text? value = some text) :
    ∃ other, e.field? image key = some other ∧ e.text? other = some text := by
  obtain ⟨other, found, also⟩ := similar.exists_field? related held
  exact ⟨other, found, (similar.text?_eq also).trans given⟩

theorem IsName.image (similar : SimilarBy d e same) (isName : IsName d name) : IsName e name := by
  obtain ⟨graph, nodes, node, isGraph, list, member, named⟩ := isName
  obtain ⟨outer, related, outerGraph⟩ := isGraph.exists_image similar
  obtain ⟨others, given, images⟩ := similar.exists_listField? related list
  obtain ⟨image, listed, also⟩ := images node member
  refine ⟨outer, others, image, outerGraph, given, listed, ?_⟩
  rcases named with text | ⟨value, held, text⟩
  · exact .inl ((similar.text?_eq also).trans text)
  · exact .inr (exists_text_image similar also held text)

theorem IsPort.image (similar : SimilarBy d e same) (isPort : IsPort d name port) :
    IsPort e name port := by
  obtain ⟨graph, link, isGraph, linked, key, known, value, held, text, form⟩ := isPort
  obtain ⟨outer, related, outerGraph⟩ := isGraph.exists_image similar
  obtain ⟨image, also, imageLinked⟩ := linked.exists_image similar related
  obtain ⟨other, found, given⟩ := exists_text_image similar also held text
  exact ⟨outer, image, outerGraph, imageLinked, key, known, other, found, given, form⟩

theorem isName_iff (similar : SimilarBy d e same) : IsName d name ↔ IsName e name :=
  ⟨.image similar, .image similar.symm⟩

theorem isPort_iff (similar : SimilarBy d e same) : IsPort d name port ↔ IsPort e name port :=
  ⟨.image similar, .image similar.symm⟩

/-- Similar documents have one vocabulary. -/
theorem IsVocabulary.image {entities : Entities} (similar : SimilarBy d e same)
    (vocabulary : IsVocabulary d entities) : IsVocabulary e entities where
  names := fun name => (vocabulary.names name).trans (isName_iff similar)
  sorted := vocabulary.sorted
  ports := fun name ports => by
    have ports := vocabulary.ports name ports
    simp only [isName_iff similar, isPort_iff similar] at ports
    exact ports
  keyed := vocabulary.keyed

/-- The walk visits every graph of a document once and no other cell, wherever the document contains
itself, and what is collected on it is the one vocabulary of the document. Documents that differ in the
order of lists or in what is shared only have the same. -/
theorem collects_vocabulary (d : Document) :
    (graphs d).Nodup ∧ (∀ id, id ∈ graphs d ↔ IsGraph d id) ∧
      (∀ entities, IsVocabulary d entities ↔ entities = ofDocument d) ∧
      ∀ e, Similar d e → ofDocument e = ofDocument d := by
  have own := isVocabulary_ofDocument d
  refine ⟨nodup_graphs d, fun _ => mem_graphs_iff, fun entities => ⟨fun other => other.unique own, ?_⟩, ?_⟩
  · rintro rfl
    exact own
  · rintro e ⟨same, similar⟩
    exact (isVocabulary_ofDocument e).unique (own.image similar)

/-- A graph that is its own node, and the same one told once over, with its nodes in another order and
one of them twice. -/
theorem unrolled_loop_has_vocabulary :
    let word (t : String) : Cell := .scalar (.text t)
    let looped : Document := ⟨#[.mapping [(1, 2), (3, 4)], word "nodes", .sequence [0, 5], word "edges",
      .sequence [6], word "b", .mapping [(7, 8)], word "to", word "b:x"], 0⟩
    let unrolled : Document := ⟨#[.mapping [(1, 2), (3, 4)], word "nodes", .sequence [5, 9],
      word "edges", .sequence [6], word "b", .mapping [(7, 8)], word "to", word "b:x",
      .mapping [(1, 10), (3, 4)], .sequence [9, 11, 5], word "b"], 0⟩
    Similar looped unrolled ∧ ofDocument unrolled = ofDocument looped ∧
      ofDocument looped = ⟨["b".toList], [("b".toList, ["x".toList])]⟩ := by
  intro word looped unrolled
  let pairs : List (Nat × Nat) := [(0, 0), (1, 1), (2, 2), (3, 3), (4, 4), (5, 5), (6, 6), (7, 7),
    (8, 8), (0, 9), (2, 10), (5, 11)]
  have cells : ∀ pair ∈ pairs, (looped.cell pair.1).Similar (fun id other => (id, other) ∈ pairs)
      (unrolled.cell pair.2) := by decide
  have similar : Similar looped unrolled :=
    ⟨fun id other => (id, other) ∈ pairs, by decide, fun related => cells _ related⟩
  have all : graphs looped = [0] := by
    unfold graphs
    rw [reach, dif_neg (by decide), show innerGraphs looped looped.root = [0] by decide,
      List.append_nil, reach, dif_pos (by decide), reach]
  have vocabulary : ofDocument looped = ⟨["b".toList], [("b".toList, ["x".toList])]⟩ := by
    unfold ofDocument
    rw [all]
    decide
  exact ⟨similar, (collects_vocabulary looped).2.2.2 unrolled similar, vocabulary⟩

end Entities
end GraphCompletion

import GraphCompletion.Lines

/-!
# Sections

A graph document has a root and two kinds of collections, nodes and links, that nest. A collection
begins at its header, a line with nothing but `nodes:`, `links:` or `edges:` on it. The header that
governs a line is the nearest one above that is less indented, or the line's own.
-/
namespace GraphCompletion

/-- Where in a graph document a line stands. -/
inductive Section where
  | root
  | nodes
  | links
  deriving DecidableEq, Repr

namespace Section

/-- The section's name. -/
def word : Section → Text
  | root => "root"
  | nodes => "nodes"
  | links => "links"

def all : List Section := [root, nodes, links]

/-- The section holds items. -/
def isCollection : Section → Bool
  | root => false
  | nodes => true
  | links => true

/-- The words that head a collection; links have two. -/
def headers : List (Text × Section) := [("nodes", nodes), ("links", links), ("edges", links)]

/-- A collection's name, links for their other name, any other name itself. -/
def canonicalName (name : Text) : Text := if name = "edges".toList then "links".toList else name

end Section

/-- A section with the indentation of the header that opens it. -/
structure Scope where
  area : Section
  indent : Nat
  deriving DecidableEq, Repr

namespace Scope

/-- The document outside every collection. -/
def root : Scope := ⟨.root, 0⟩

/-- The collection that a line opens, if it is a header. -/
def ofHeader? (line : Text) : Option Scope :=
  Section.headers.findSome? fun header => do
    let rest ← Text.after? header.1 (Text.stripLeft line)
    match Text.stripLeft rest with
    | ':' :: rest => if Text.isBlank rest then some ⟨header.2, Line.indent line⟩ else none
    | _ => none

/-- The header on an entry, if it governs the line at `index` for this indentation. -/
def governs? (index indent : Int) (entry : Text × Nat) : Option Scope :=
  (ofHeader? entry.1).filter fun scope => (scope.indent : Int) < indent || (entry.2 : Int) = index

/-- The collection that governs a line: its own header, or the nearest one above that is indented
less than `indent`. -/
def governing (lines : List Text) (index indent : Int) : Scope :=
  ((Lines.upTo lines index).findSome? (governs? index indent)).getD root

/-- The collection that governs a line, seen from the line's own indentation. -/
def ofLine (lines : List Text) (index : Nat) (line : Text) : Scope :=
  governing lines index (Line.indent line)

end Scope
end GraphCompletion

import GraphCompletion.Proofs.FirstOccurrences
import GraphCompletion.Proofs.ItemScan
import Mathlib.Order.Bounds.Basic

/-!
# The extent of an item

An item reaches from its dash line down to the first line that ends it, or to the end of the document. The
keys that are read for a line are those of one item, the one that the nearest dash line above opens: each
once, in the order of the lines. Reading further down only adds keys behind the others.
-/
namespace GraphCompletion

/-- Of the first few lines, those before the first one that has a property. -/
theorem Lines.takeWhile_not_take (lines : List Text) (count : Nat) (p : Text → Bool) :
    ((lines.take count).takeWhile fun line => !p line) = lines.take (min count (lines.findIdx p)) := by
  rw [← List.take_takeWhile, List.takeWhile_eq_take_findIdx_not, List.take_take]
  simp only [Bool.not_not]

namespace Item

variable {lines : List Text} {area : Section} {index last indentSize : Int} {start i : Nat}

/-- The line at an index ends the item that begins at `start`: it is not blank, and it is a dash line no
deeper than the item's own or any line further out. -/
def EndsItem (lines : List Text) (start i : Nat) : Prop :=
  ∃ line, lines[i]? = some line ∧ Line.isBlank line = false ∧
    (Line.isDash line = true ∧ Line.indent line ≤ Line.indent (Lines.get lines start) ∨
      Line.indent line < Line.indent (Lines.get lines start))

/-- The index of the first line behind the item that begins at `start`. -/
def stop (lines : List Text) (start : Nat) : Nat :=
  start + 1 + (lines.drop (start + 1)).findIdx (endsAt (Line.indent (Lines.get lines start)))

/-- The keys that lines name, in their order; those on lines deeper than `limit` do not count. -/
def namedKeys (limit : Int) (lines : List Text) : List Text :=
  (lines.filter fun line => !Line.isBlank line && (Line.indent line : Int) ≤ limit).filterMap Line.key?

theorem firstOccurrences_keysWithin (limit : Int) (lines : List Text) :
    FirstOccurrences (namedKeys limit lines) (keysWithin limit lines) :=
  firstOccurrences_eraseDups _

theorem endsItem_iff {line : Text} (held : lines[i]? = some line) :
    EndsItem lines start i ↔ endsAt (Line.indent (Lines.get lines start)) line = true := by
  simp [EndsItem, endsAt, held, and_comm]

theorem DashAt.lt_length (dash : DashAt lines i) : i < lines.length := by
  obtain ⟨_, held, _⟩ := dash
  exact (List.getElem?_eq_some_iff.1 held).1

/-- The first line behind an item is one that ends it, or the document is over there. -/
theorem isLeast_stop (inside : start < lines.length) :
    IsLeast {i | start < i ∧ (EndsItem lines start i ∨ i = lines.length)} (stop lines start) := by
  have reach : stop lines start ≤ lines.length := by
    have bound : (lines.drop (start + 1)).findIdx (endsAt (Line.indent (Lines.get lines start))) ≤
        (lines.drop (start + 1)).length := List.findIdx_le_length
    rw [List.length_drop] at bound
    unfold stop
    omega
  constructor
  · refine ⟨by unfold stop; omega, ?_⟩
    by_cases last : stop lines start = lines.length
    · exact .inr last
    · have found : stop lines start < lines.length := by omega
      refine .inl ((endsItem_iff (List.getElem?_eq_getElem found)).2 ?_)
      have within : (lines.drop (start + 1)).findIdx
          (endsAt (Line.indent (Lines.get lines start))) < (lines.drop (start + 1)).length := by
        rw [List.length_drop]
        unfold stop at found
        omega
      have ends := List.findIdx_getElem (w := within)
      rwa [List.getElem_drop] at ends
  · rintro i ⟨below, ends | finished⟩
    · by_contra early
      obtain ⟨line, held, closing⟩ := ends
      have before : i - (start + 1) < (lines.drop (start + 1)).findIdx
          (endsAt (Line.indent (Lines.get lines start))) := by
        unfold stop at early
        omega
      have goesOn := List.not_of_lt_findIdx before
      have place : start + 1 + (i - (start + 1)) = i := by omega
      simp only [List.getElem_drop, place, (List.getElem?_eq_some_iff.1 held).2] at goesOn
      rw [(endsItem_iff held).1 ⟨line, held, closing⟩] at goesOn
      cases goesOn
    · omega

/-- The lines of an item are read down to its end or to the last line that may be read. -/
theorem keys_eq (collection : area.isCollection = true)
    (opened : Lines.Nearest index (DashAt lines) start) :
    keys lines index area last indentSize =
      keysWithin (Line.indent (Lines.get lines start) + indentSize)
        ((lines.take (min (stop lines start) (last + 1).toNat)).drop start) := by
  obtain ⟨dash, held, opens⟩ := opened.holds
  have dash_eq := Lines.get_eq_of_getElem? held
  have inside := opened.holds.lt_length
  have found : (Lines.upTo lines index).find? (fun entry => Line.isDash entry.1) = some (dash, start) :=
    Lines.find?_upTo_eq_some_iff.2 ⟨held, opened⟩
  have first : lines.drop start = dash :: lines.drop (start + 1) := by
    rw [List.drop_eq_getElem_cons inside, (List.getElem?_eq_some_iff.1 held).2]
  unfold keys
  rw [if_pos collection, found]
  simp only [List.drop_take, first, dash_eq]
  by_cases read : start < (last + 1).toNat
  · have count : (last + 1).toNat - start = (last + 1).toNat - (start + 1) + 1 := by omega
    have count' : min (stop lines start) (last + 1).toNat - start =
        min ((last + 1).toNat - (start + 1))
          ((lines.drop (start + 1)).findIdx (endsAt (Line.indent dash))) + 1 := by
      unfold stop
      rw [dash_eq]
      omega
    rw [count, count']
    simp only [List.take_succ_cons, Lines.takeWhile_not_take]
  · have none : (last + 1).toNat - start = 0 := by omega
    have none' : min (stop lines start) (last + 1).toNat - start = 0 := by omega
    rw [none, none']
    rfl

theorem keys_of_no_dash (missed : ∀ i : Nat, (i : Int) ≤ index → ¬ DashAt lines i) :
    keys lines index area last indentSize = [] := by
  have none : (Lines.upTo lines index).find? (fun entry => Line.isDash entry.1) = none := by
    rw [List.find?_eq_none]
    rintro ⟨line, i⟩ member dash
    obtain ⟨held, bound⟩ := Lines.mem_upTo_iff.1 member
    exact missed i bound ⟨line, held, dash⟩
  unfold keys
  rw [none, ite_self]

/-- Reading on adds keys behind those that were read. -/
theorem keysWithin_prefix {limit : Int} {read further : List Text} (longer : read <+: further) :
    keysWithin limit read <+: keysWithin limit further := by
  obtain ⟨more, same⟩ := (longer.filter _).filterMap Line.key?
  unfold keysWithin
  rw [← same, List.eraseDups_append]
  exact List.prefix_append _ _

theorem keys_prefix (collection : area.isCollection = true) {later : Int} (le : last ≤ later) :
    keys lines index area last indentSize <+: keys lines index area later indentSize := by
  rcases Lines.Nearest.exists_or_none index (DashAt lines) with ⟨start, opened⟩ | missed
  · rw [keys_eq collection opened, keys_eq collection opened, List.drop_take, List.drop_take]
    exact keysWithin_prefix (List.take_prefix_take_left (by omega))
  · rw [keys_of_no_dash missed]
    exact List.nil_prefix

theorem nodup_keys (collection : area.isCollection = true) :
    (keys lines index area last indentSize).Nodup := by
  rcases Lines.Nearest.exists_or_none index (DashAt lines) with ⟨start, opened⟩ | missed
  · rw [keys_eq collection opened]
    exact nodup_eraseDups _
  · rw [keys_of_no_dash missed]
    exact List.nodup_nil

/-- The keys read for a line are those of the item that the nearest dash line at or above it opens: what
the lines from there to the item's end name, or to the last line that may be read if that comes first,
each key where it stands first. Only lines at most one level deeper than the item count. Without a dash
line there are none. Reading further down only adds keys at the end. -/
theorem keys_of_one_item (collection : area.isCollection = true) (lines : List Text)
    (index last indentSize : Int) :
    ((∀ i : Nat, (i : Int) ≤ index → ¬ DashAt lines i) →
      keys lines index area last indentSize = []) ∧
    (∀ start, Lines.Nearest index (DashAt lines) start → ∃ stop,
      IsLeast {i | start < i ∧ (EndsItem lines start i ∨ i = lines.length)} stop ∧
      FirstOccurrences
        (namedKeys (Line.indent (Lines.get lines start) + indentSize)
          ((lines.take (min stop (last + 1).toNat)).drop start))
        (keys lines index area last indentSize)) ∧
    (keys lines index area last indentSize).Nodup ∧
    ∀ later, last ≤ later →
      keys lines index area last indentSize <+: keys lines index area later indentSize := by
  refine ⟨keys_of_no_dash, fun start opened => ?_, nodup_keys collection,
    fun later => keys_prefix collection⟩
  refine ⟨stop lines start, isLeast_stop opened.holds.lt_length, ?_⟩
  rw [keys_eq collection opened]
  exact firstOccurrences_keysWithin _ _

/-- The keys of an item with a line too deep to count, a blank one and a repeated key; the next item's do not
count. -/
theorem keys_of_item_with_ports :
    let lines : List Text := ["nodes:", "  - name: a", "    ports:", "        x: 1", "",
      "    name: b", "  - type: c"]
    Section.nodes.isCollection = true ∧ Lines.Nearest 2 (DashAt lines) 1 ∧
      IsLeast {i | 1 < i ∧ (EndsItem lines 1 i ∨ i = lines.length)} 6 ∧
      FirstOccurrences ["name", "ports", "name"] (keys lines 2 .nodes 9 2) ∧
      keys lines 2 .nodes 9 2 = ["name", "ports"] := by
  intro lines
  have opened : Lines.Nearest 2 (DashAt lines) 1 := by
    refine ⟨by decide, by decide, fun i later bound => ?_⟩
    obtain rfl : i = 2 := by omega
    decide
  obtain ⟨_, read, _⟩ := keys_of_one_item (rfl : Section.nodes.isCollection = true) lines 2 9 2
  obtain ⟨stop', least, first⟩ := read 1 opened
  have end_eq : stop' = 6 := by
    rw [least.unique (isLeast_stop (by decide))]
    decide
  subst end_eq
  have named : namedKeys (Line.indent (Lines.get lines (1 : Nat)) + 2)
      ((lines.take (min 6 (9 + 1 : Int).toNat)).drop 1) = ["name", "ports", "name"] := by
    decide
  rw [named] at first
  refine ⟨rfl, opened, least, first, ?_⟩
  rw [firstOccurrences_iff.1 first]
  decide

end Item
end GraphCompletion

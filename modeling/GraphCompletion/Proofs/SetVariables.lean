import GraphCompletion.Settings
import Mathlib.Data.List.Basic
import Mathlib.Data.List.Induction
import Mathlib.Data.List.Nodup

/-!
# Setting variables

Variables are set one after the other, each in the place of its name or at the end. Afterwards they have
their new values and all others their old ones. A setting is read from the last variable that spells its
name, in whatever case, so setting variables changes a setting only if one of them spells its name.
-/
namespace GraphCompletion

namespace Environment

variable {α : Type} {name : Text} {value : α} {entries : List (Text × α)}

theorem get?_cons (name : Text) (entry : Text × α) (rest : List (Text × α)) :
    get? name (entry :: rest) = if entry.1 = name then some entry.2 else get? name rest := by
  unfold get?
  by_cases here : entry.1 = name <;> simp [here]

theorem put_of_not_mem (new : name ∉ entries.map Prod.fst) :
    put name value entries = entries ++ [(name, value)] := by
  induction entries with
  | nil => rfl
  | cons entry rest ih =>
    rw [List.map_cons, List.mem_cons, not_or] at new
    rw [put, if_neg (Ne.symm new.1), ih new.2, List.cons_append]

/-- No name comes up but the one that is set. -/
theorem map_fst_put (name : Text) (value : α) (entries : List (Text × α)) :
    (put name value entries).map Prod.fst =
      if name ∈ entries.map Prod.fst then entries.map Prod.fst else entries.map Prod.fst ++ [name] := by
  induction entries with
  | nil => rfl
  | cons entry rest ih =>
    rw [put]
    by_cases same : entry.1 = name
    · simp [same]
    · rw [if_neg same, List.map_cons, ih]
      by_cases old : name ∈ rest.map Prod.fst <;> simp [old, Ne.symm same]

theorem nodup_put (distinct : (entries.map Prod.fst).Nodup) :
    ((put name value entries).map Prod.fst).Nodup := by
  rw [map_fst_put]
  split
  · exact distinct
  · next new => exact List.nodup_append.2 ⟨distinct, List.nodup_singleton name, by
      rintro a member b last rfl
      exact new (List.mem_singleton.1 last ▸ member)⟩

/-- Among the names with a property a variable is set as it is among all of them. -/
theorem filter_put (p : Text → Bool) (name : Text) (value : α) (entries : List (Text × α)) :
    ((put name value entries).filter fun entry => p entry.1) =
      if p name then put name value (entries.filter fun entry => p entry.1)
      else entries.filter fun entry => p entry.1 := by
  induction entries with
  | nil => cases holds : p name <;> simp [put, holds]
  | cons entry rest ih =>
    rw [put]
    by_cases same : entry.1 = name
    · subst same
      cases holds : p entry.1 <;> simp [holds, put]
    · rw [if_neg same, List.filter_cons, ih, List.filter_cons]
      cases holds : p entry.1 <;> cases kept : p name <;> simp [put, same]

theorem mem_of_mem_put {entry : Text × α} (member : entry ∈ put name value entries) :
    entry = (name, value) ∨ entry ∈ entries := by
  induction entries with
  | nil => exact .inl (List.mem_singleton.1 member)
  | cons first rest ih =>
    rw [put] at member
    split at member
    · rcases List.mem_cons.1 member with same | later
      · exact .inl same
      · exact .inr (List.mem_cons_of_mem first later)
    · rcases List.mem_cons.1 member with rfl | later
      · exact .inr List.mem_cons_self
      · exact (ih later).imp_right (List.mem_cons_of_mem first)

end Environment

namespace Configured

open Environment (get? put)

variable {environment : Environment} {added : List (Text × Text)} {name value : Text}

theorem setAll_append_singleton (environment : Environment) (added : List (Text × Text))
    (entry : Text × Text) :
    setAll environment (added ++ [entry]) = put entry.1 entry.2 (setAll environment added) := by
  simp [setAll, List.foldl_append]

theorem get?_setAll_of_not_mem (other : name ∉ added.map Prod.fst) :
    get? name (setAll environment added) = get? name environment := by
  induction added using List.reverseRecOn with
  | nil => rfl
  | append_singleton added entry ih =>
    rw [List.map_append, List.mem_append, not_or] at other
    have different : name ≠ entry.1 := by simpa using other.2
    rw [setAll_append_singleton, Environment.get?_put_of_ne different, ih other.1]

theorem get?_setAll_of_mem (distinct : (added.map Prod.fst).Nodup) (member : (name, value) ∈ added) :
    get? name (setAll environment added) = some value := by
  induction added using List.reverseRecOn with
  | nil => simp at member
  | append_singleton added entry ih =>
    rw [List.map_append, List.nodup_append] at distinct
    rw [setAll_append_singleton]
    rcases List.mem_append.1 member with earlier | last
    · have different : name ≠ entry.1 :=
        distinct.2.2 name (List.mem_map_of_mem earlier) entry.1 List.mem_cons_self
      rw [Environment.get?_put_of_ne different, ih distinct.1 earlier]
    · rw [← List.mem_singleton.1 last, Environment.get?_put_self]

/-- Variables under new names are added behind the others. -/
theorem setAll_of_new (distinct : (added.map Prod.fst).Nodup)
    (new : ∀ name ∈ added.map Prod.fst, name ∉ environment.map Prod.fst) :
    setAll environment added = environment ++ added := by
  induction added using List.reverseRecOn with
  | nil => simp [setAll]
  | append_singleton added entry ih =>
    rw [List.map_append, List.nodup_append] at distinct
    have before : setAll environment added = environment ++ added :=
      ih distinct.1 fun name member => new name (by
        rw [List.map_append]
        exact List.mem_append_left _ member)
    have absent : entry.1 ∉ (environment ++ added).map Prod.fst := by
      rw [List.map_append, List.mem_append, not_or]
      refine ⟨new entry.1 (by simp), fun member => ?_⟩
      exact distinct.2.2 entry.1 member entry.1 List.mem_cons_self rfl
    rw [setAll_append_singleton, before, Environment.put_of_not_mem absent, List.append_assoc]

theorem filter_setAll (p : Text → Bool) (environment : Environment) (added : List (Text × Text)) :
    ((setAll environment added).filter fun entry => p entry.1) =
      setAll (environment.filter fun entry => p entry.1) (added.filter fun entry => p entry.1) := by
  induction added using List.reverseRecOn with
  | nil => rfl
  | append_singleton added entry ih =>
    rw [setAll_append_singleton, Environment.filter_put, ih, List.filter_append]
    cases holds : p entry.1 with
    | false => simp [holds]
    | true => simp [holds, setAll_append_singleton]

theorem mem_of_mem_setAll {entry : Text × Text} (member : entry ∈ setAll environment added) :
    entry ∈ environment ∨ entry ∈ added := by
  induction added using List.reverseRecOn with
  | nil => exact .inl member
  | append_singleton added last ih =>
    rw [setAll_append_singleton] at member
    rcases Environment.mem_of_mem_put member with same | earlier
    · exact .inr (by simp [same])
    · exact (ih earlier).imp_right (List.mem_append_left _)

theorem setAll_eq_nil_iff : setAll environment added = [] ↔ environment = [] ∧ added = [] := by
  induction added using List.reverseRecOn with
  | nil => simp [setAll]
  | append_singleton added last ih =>
    rw [setAll_append_singleton]
    cases setAll environment added with
    | nil => simp [put]
    | cons first rest =>
      rw [put]
      split <;> simp

end Configured

namespace Settings

open Configured (setAll)

variable {α : Type} {environment : Environment} {added : List (Text × Text)} {name value : Text}

/-- The variables that spell a name, in whatever case. -/
def spellings (name : Text) (entries : List (Text × α)) : List (Text × α) :=
  entries.filter fun entry => Text.lower entry.1 = Text.lower name

theorem mem_spellings_iff {entries : List (Text × α)} {entry : Text × α} :
    entry ∈ spellings name entries ↔ entry ∈ entries ∧ Text.lower entry.1 = Text.lower name := by
  simp [spellings]

theorem spellings_eq_nil_iff {entries : List (Text × α)} :
    spellings name entries = [] ↔ ∀ other ∈ entries.map Prod.fst, Text.lower other ≠ Text.lower name := by
  simp [spellings, List.filter_eq_nil_iff]

theorem given?_eq_getLast? (name : Text) (entries : List (Text × α)) :
    given? name entries = (spellings name entries).getLast?.map Prod.snd := by
  unfold given? Environment.get? spellings
  rw [List.find?_map, Option.map_map, List.getLast?_eq_head?_reverse, ← List.filter_reverse,
    List.head?_filter]
  rfl

theorem given?_eq_none_iff {entries : List (Text × α)} :
    given? name entries = none ↔ spellings name entries = [] := by
  rw [given?_eq_getLast?, Option.map_eq_none_iff, List.getLast?_eq_none_iff]

theorem spellings_setAll : spellings name (setAll environment added) =
    setAll (spellings name environment) (spellings name added) :=
  Configured.filter_setAll (fun other => Text.lower other = Text.lower name) environment added

/-- A setting that no variable spells stays as it is. -/
theorem given?_setAll_of_not_spelled (none : spellings name added = []) :
    given? name (setAll environment added) = given? name environment := by
  rw [given?_eq_getLast?, spellings_setAll, none, given?_eq_getLast?]
  rfl

/-- A setting that the environment lacks is read from the variables that are added. -/
theorem given?_setAll_of_lacking (distinct : (added.map Prod.fst).Nodup)
    (lacking : spellings name environment = []) :
    given? name (setAll environment added) = given? name added := by
  have whole : setAll [] (spellings name added) = spellings name added := by
    refine Configured.setAll_of_new (distinct.sublist ?_) (by simp)
    exact List.filter_sublist.map Prod.fst
  rw [given?_eq_getLast?, spellings_setAll, lacking, whole, given?_eq_getLast?]

/-- A setting whose spellings have one value has that value. -/
theorem given?_of_alike {entries : List (Text × α)} {value : α} (there : spellings name entries ≠ [])
    (alike : ∀ entry ∈ spellings name entries, entry.2 = value) :
    given? name entries = some value := by
  rw [given?_eq_getLast?, List.getLast?_eq_some_getLast there, Option.map_some,
    alike _ (List.getLast_mem there)]

/-- Variables with the value that a setting has already leave it as it is. -/
theorem given?_setAll_of_alike (there : spellings name environment ≠ [])
    (alike : ∀ entry ∈ spellings name environment, entry.2 = value)
    (same : ∀ entry ∈ spellings name added, entry.2 = value) :
    given? name (setAll environment added) = some value := by
  refine given?_of_alike ?_ fun entry member => ?_
  · rw [spellings_setAll, ne_eq, Configured.setAll_eq_nil_iff]
    exact fun empty => there empty.1
  · rw [spellings_setAll] at member
    exact (Configured.mem_of_mem_setAll member).elim (alike entry) (same entry)

end Settings
end GraphCompletion

import GraphCompletion.Proofs.SetVariables
import Mathlib.Data.List.Forall2
import Mathlib.Data.Option.Basic

/-!
# The variables of a file in two environments

What the variables of a file are worth depends on the environment that their references are looked up in,
but which variables the file has does not. A file whose variables could be set once can be set again in
the environment that this leaves behind: no value gets a null character that it did not have.
-/
namespace GraphCompletion

namespace EnvFile

variable {environment after : Environment} {above above' : List (Text × Option Text)} {name : Text}

/-- A text that becomes another one gets no null character in that. -/
def StaysSettable (before after : Text) : Prop := '\x00' ∉ before → '\x00' ∉ after

/-- The same variables, with values at the same places and no null character in one that had none. -/
def Akin (before after : List (Text × Option Text)) : Prop :=
  List.Forall₂ (fun entry entry' => entry.1 = entry'.1 ∧ Option.Rel StaysSettable entry.2 entry'.2)
    before after

theorem Akin.put (akin : Akin above above') {held held' : Option Text}
    (kept : Option.Rel StaysSettable held held') :
    Akin (Environment.put name held above) (Environment.put name held' above') := by
  induction akin with
  | nil => exact .cons ⟨rfl, kept⟩ .nil
  | @cons entry entry' rest rest' same akin ih =>
    rw [Environment.put, Environment.put, ← same.1]
    split
    · exact .cons ⟨rfl, kept⟩ akin
    · exact .cons same ih

theorem Akin.get? (akin : Akin above above') :
    Option.Rel (Option.Rel StaysSettable) (Environment.get? name above)
      (Environment.get? name above') := by
  induction akin with
  | nil => exact .none
  | @cons entry entry' rest rest' same akin ih =>
    rw [Environment.get?_cons, Environment.get?_cons, ← same.1]
    split
    · exact .some same.2
    · exact ih

/-- A reference that gave no null character gives none where variables were set without one. -/
theorem meaning_staysSettable (akin : Akin above above') (name default : Text)
    (kept : Environment.get? name after = Environment.get? name environment ∨
      ∃ value, Environment.get? name after = some value ∧ '\x00' ∉ value) :
    StaysSettable (meaning environment above name default) (meaning after above' name default) := by
  have found : Option.Rel (Option.Rel StaysSettable) (Environment.get? name above)
      (Environment.get? name above') := akin.get?
  unfold meaning
  generalize Environment.get? name above = held at found ⊢
  generalize Environment.get? name above' = held' at found ⊢
  cases found with
  | none =>
    rcases kept with same | ⟨value, given, settable⟩
    · simp only [same]
      exact id
    · simp only [given]
      exact fun _ => settable
  | some found =>
    cases found with
    | none => exact id
    | some settable => exact settable

theorem expand_staysSettable {get get' : Text → Text → Text}
    (kept : ∀ name default, StaysSettable (get name default) (get' name default)) (skipped : Nat)
    (t : Text) : StaysSettable (expand get skipped t) (expand get' skipped t) := by
  unfold StaysSettable
  fun_induction expand get skipped t with
  | case1 skipped => cases skipped <;> exact id
  | case2 skipped c rest ih => exact ih
  | case3 c rest found default length reference ih =>
    simp only [expand, reference, List.mem_append, not_or]
    rintro ⟨first, others⟩
    exact ⟨kept found default first, ih others⟩
  | case4 c rest plain ih =>
    simp only [expand, plain, List.mem_cons, not_or]
    rintro ⟨first, others⟩
    exact ⟨first, ih others⟩

/-- One more variable of a file: its references are looked up in the environment and the variables above. -/
def bind (environment : Environment) (above : List (Text × Option Text)) (entry : Text × Option Text) :
    List (Text × Option Text) :=
  Environment.put entry.1 (entry.2.map (expand (meaning environment above) 0)) above

theorem bindings_eq_foldl (environment : Environment) (file : Text) :
    bindings environment file = (entries file).foldl (bind environment) [] := rfl

theorem Akin.bind (akin : Akin above above')
    (kept : ∀ name, Environment.get? name after = Environment.get? name environment ∨
      ∃ value, Environment.get? name after = some value ∧ '\x00' ∉ value)
    (entry : Text × Option Text) : Akin (bind environment above entry) (bind after above' entry) := by
  refine akin.put ?_
  cases entry.2 with
  | none => exact .none
  | some held => exact .some (expand_staysSettable
      (fun name default => meaning_staysSettable akin name default (kept name)) 0 held)

/-- The variables of a file are the same in an environment where variables were set without a null
character. -/
theorem bindings_akin (kept : ∀ name, Environment.get? name after = Environment.get? name environment ∨
      ∃ value, Environment.get? name after = some value ∧ '\x00' ∉ value) (file : Text) :
    Akin (bindings environment file) (bindings after file) :=
  List.foldl_rel (r := Akin) .nil fun entry _ _ _ akin => akin.bind kept entry

/-- A file gives each name once. -/
theorem nodup_bindings (environment : Environment) (file : Text) :
    ((bindings environment file).map Prod.fst).Nodup := by
  rw [bindings_eq_foldl]
  induction entries file using List.reverseRecOn with
  | nil => exact List.nodup_nil
  | append_singleton earlier entry ih =>
    rw [List.foldl_concat]
    exact Environment.nodup_put ih

/-- The variables that have a value. -/
def assignments (listed : List (Text × Option Text)) : List (Text × Text) :=
  listed.filterMap fun entry => entry.2.map fun value => (entry.1, value)

theorem mem_assignments_iff {listed : List (Text × Option Text)} {name value : Text} :
    (name, value) ∈ assignments listed ↔ (name, some value) ∈ listed := by
  simp only [assignments, List.mem_filterMap, Option.map_eq_some_iff, Prod.mk.injEq]
  constructor
  · rintro ⟨⟨_, _⟩, member, _, rfl, rfl, rfl⟩
    exact member
  · intro member
    exact ⟨_, member, _, rfl, rfl, rfl⟩

theorem assignments_cons_some (name value : Text) (rest : List (Text × Option Text)) :
    assignments ((name, some value) :: rest) = (name, value) :: assignments rest := rfl

theorem nodup_assignments {listed : List (Text × Option Text)}
    (distinct : (listed.map Prod.fst).Nodup) : ((assignments listed).map Prod.fst).Nodup := by
  refine distinct.sublist ?_
  induction listed with
  | nil => exact List.Sublist.slnil
  | cons entry rest ih =>
    obtain ⟨name, value?⟩ := entry
    have inner := ih (List.nodup_cons.1 distinct).2
    cases value? with
    | none => exact inner.cons name
    | some value => exact inner.cons_cons name

theorem Akin.map_fst_assignments (akin : Akin above above') :
    (assignments above).map Prod.fst = (assignments above').map Prod.fst := by
  induction akin with
  | nil => rfl
  | @cons entry entry' rest rest' same akin ih =>
    obtain ⟨name, held⟩ := entry
    obtain ⟨name', held'⟩ := entry'
    obtain ⟨rfl, kept⟩ := same
    cases kept with
    | none => exact ih
    | some _ => exact congrArg (name :: ·) ih

/-- Variables that could be set can be set again. -/
theorem Akin.all_isSettable (akin : Akin above above')
    (settable : (assignments above).all Configured.isSettable = true) :
    (assignments above').all Configured.isSettable = true := by
  induction akin with
  | nil => rfl
  | @cons entry entry' rest rest' same akin ih =>
    obtain ⟨name, held⟩ := entry
    obtain ⟨name', held'⟩ := entry'
    obtain ⟨rfl, kept⟩ := same
    cases kept with
    | none => exact ih settable
    | some stays =>
      simp only [assignments_cons_some, List.all_cons, Bool.and_eq_true, Configured.isSettable,
        Bool.not_eq_true', List.contains_eq_mem, decide_eq_false_iff_not] at settable ⊢
      exact ⟨⟨settable.1.1, stays settable.1.2⟩, ih settable.2⟩

end EnvFile

namespace Settings

variable {name : Text}

theorem spellings_assignments (name : Text) (listed : List (Text × Option Text)) :
    spellings name (EnvFile.assignments listed) = EnvFile.assignments (spellings name listed) := by
  unfold spellings EnvFile.assignments
  rw [List.filter_filterMap, List.filterMap_filter]
  refine List.filterMap_congr fun entry _ => ?_
  cases entry.2 with
  | none => simp
  | some value => simp [Option.filter_some]

/-- A setting whose last spelling has a value is read from the variables with one. -/
theorem given?_assignments_of_value {listed : List (Text × Option Text)} {value : Text}
    (given : given? name listed = some (some value)) :
    given? name (EnvFile.assignments listed) = some value := by
  rw [given?_eq_getLast?, Option.map_eq_some_iff] at given
  obtain ⟨last, found, held⟩ := given
  obtain ⟨earlier, whole⟩ := List.getLast?_eq_some_iff.1 found
  rw [given?_eq_getLast?, spellings_assignments, whole]
  simp [EnvFile.assignments, List.filterMap_append, held]

/-- Where every spelling of a setting has a value, the setting is read from the variables with one. -/
theorem given?_assignments {listed : List (Text × Option Text)}
    (valued : ∀ entry ∈ spellings name listed, entry.2 ≠ none) :
    given? name (EnvFile.assignments listed) = (given? name listed).join := by
  cases given : given? name listed with
  | none =>
    refine given?_eq_none_iff.2 ?_
    rw [spellings_assignments, given?_eq_none_iff.1 given]
    rfl
  | some held =>
    cases held with
    | some value => exact given?_assignments_of_value given
    | none =>
      rw [given?_eq_getLast?, Option.map_eq_some_iff] at given
      obtain ⟨last, found, lacks⟩ := given
      exact absurd lacks (valued last (List.mem_of_getLast? found))

/-- A setting that no variable with a value spells has no text. -/
theorem join_given?_of_not_assigned {listed : List (Text × Option Text)}
    (unset : spellings name (EnvFile.assignments listed) = []) : (given? name listed).join = none := by
  rw [Option.eq_none_iff_forall_ne_some]
  intro value given
  have assigned := given?_assignments_of_value (Option.join_eq_some_iff.1 given)
  rw [given?_eq_none_iff.2 unset] at assigned
  cases assigned

end Settings
end GraphCompletion

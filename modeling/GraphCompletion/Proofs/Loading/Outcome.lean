import GraphCompletion.Yaml.Scalar

/-!
# Outcomes of a reading

A document is read in steps that may fail. What is proved of a step is what it gives when it succeeds,
which faults it may fail with, and, where it works on a state, what it keeps of that. Here such facts
are put together along the steps.
-/
namespace GraphCompletion.Yaml

variable {α β σ : Type} {may : Fault → Prop}

/-- A step gives a good result, or fails with a fault that it may fail with. -/
def Yields (may : Fault → Prop) (good : α → Prop) : Except Fault α → Prop
  | .ok result => good result
  | .error fault => may fault

namespace Yields

variable {good : α → Prop} {further : β → Prop} {step : Except Fault α}

theorem mono (yields : Yields may good step) {fine : α → Prop} (weaker : ∀ a, good a → fine a) :
    Yields may fine step := by
  cases step with
  | ok result => exact weaker result yields
  | error fault => exact yields

theorem bind {next : α → Except Fault β} (yields : Yields may good step)
    (after : ∀ a, good a → Yields may further (next a)) : Yields may further (step >>= next) := by
  cases step with
  | ok result => exact after result yields
  | error fault => exact yields

theorem map {f : α → β} (yields : Yields may good step) (after : ∀ a, good a → further (f a)) :
    Yields may further (step.map f) := by
  cases step with
  | ok result => exact after result yields
  | error fault => exact yields

end Yields

/-- The faults that make a document invalid. -/
def Fault.Invalid (fault : Fault) : Prop := fault.invalidates = true

/-- The value can be written out, or the document is invalid. -/
def Harmless (outcome : Except Fault Scalar) : Prop :=
  Yields Fault.Invalid (fun value => value.isWritable = true) outcome

/-- A step on a state keeps an invariant, gives a good result, and fails with such faults only as it
may fail with. -/
def Keeps (may : Fault → Prop) (kept : σ → Prop) (good : α → Prop) (step : StateT σ (Except Fault) α) :
    Prop :=
  ∀ s, kept s → Yields may (fun outcome => good outcome.1 ∧ kept outcome.2) (step s)

namespace Keeps

variable {kept : σ → Prop} {good : α → Prop} {further : β → Prop} {step : StateT σ (Except Fault) α}

theorem pure {result : α} (holds : good result) :
    Keeps may kept good (Pure.pure result : StateT σ (Except Fault) α) :=
  fun _ held => ⟨holds, held⟩

theorem throw {fault : Fault} (allowed : may fault) :
    Keeps may kept good (MonadExcept.throw fault : StateT σ (Except Fault) α) :=
  fun _ _ => allowed

theorem mono (keeps : Keeps may kept good step) {fine : α → Prop} (weaker : ∀ a, good a → fine a) :
    Keeps may kept fine step :=
  fun s held => (keeps s held).mono fun outcome ⟨holds, held⟩ => ⟨weaker outcome.1 holds, held⟩

theorem bind {next : α → StateT σ (Except Fault) β} (keeps : Keeps may kept good step)
    (after : ∀ a, good a → Keeps may kept further (next a)) :
    Keeps may kept further (step >>= next) :=
  fun s held => (keeps s held).bind fun outcome ⟨holds, held⟩ => after outcome.1 holds outcome.2 held

/-- What is read off the state is known to come from a state with the invariant. -/
theorem get : Keeps may kept kept (MonadState.get : StateT σ (Except Fault) σ) :=
  fun _ held => ⟨held, held⟩

theorem set {other : σ} (held : kept other) :
    Keeps may kept (fun _ => True) (MonadStateOf.set other : StateT σ (Except Fault) PUnit) :=
  fun _ _ => ⟨trivial, held⟩

theorem modify {change : σ → σ} (keeps : ∀ s, kept s → kept (change s)) :
    Keeps may kept (fun _ => True) (modify change : StateT σ (Except Fault) Unit) :=
  fun s held => ⟨trivial, keeps s held⟩

/-- A step for each member of a list. -/
theorem mapM {each : β → StateT σ (Except Fault) α} {members : List β}
    (keeps : ∀ b ∈ members, Keeps may kept (fun _ => True) (each b)) :
    Keeps may kept (fun _ => True) (members.mapM each) := by
  induction members with
  | nil => exact pure trivial
  | cons b rest ih =>
    rw [List.mapM_cons]
    refine (keeps b List.mem_cons_self).bind fun _ _ => ?_
    exact (ih fun other member => keeps other (List.mem_cons_of_mem b member)).bind
      fun _ _ => pure trivial

theorem forM {each : β → StateT σ (Except Fault) Unit} {members : List β}
    (keeps : ∀ b ∈ members, Keeps may kept (fun _ => True) (each b)) :
    Keeps may kept (fun _ => True) (members.forM each) := by
  induction members with
  | nil => exact pure trivial
  | cons b rest ih =>
    change Keeps may kept _ (each b >>= fun _ => rest.forM each)
    refine (keeps b List.mem_cons_self).bind fun _ _ => ?_
    exact ih fun other member => keeps other (List.mem_cons_of_mem b member)

end Keeps
end GraphCompletion.Yaml

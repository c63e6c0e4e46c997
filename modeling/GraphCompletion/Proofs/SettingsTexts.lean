import GraphCompletion.Proofs.SetVariables

/-!
# Settings from texts

Each setting is read from one text, or takes its default where there is none. Which settings a list of
texts gives can be said setting by setting, and so can whether other texts give the same ones.
-/
namespace GraphCompletion

namespace Checked

variable {α β : Type}

theorem seq_eq_value_iff {f : Checked (α → β)} {a : Checked α} {b : β} :
    f <*> a = .value b ↔ ∃ g x, f = .value g ∧ a = .value x ∧ g x = b := by
  change f.apply a = .value b ↔ _
  cases f <;> cases a <;> simp [apply]

theorem map_eq_value_iff {f : α → β} {a : Checked α} {b : β} :
    f <$> a = .value b ↔ ∃ x, a = .value x ∧ f x = b := by
  change a.map f = .value b ↔ _
  cases a <;> simp [map]

theorem under_eq_value_iff {step : Step} {a : Checked α} {x : α} :
    a.under step = .value x ↔ a = .value x := by
  cases a <;> simp [under]

theorem andThen_eq_value_iff {a : Checked α} {test : α → Checked β} {b : β} :
    a.andThen test = .value b ↔ ∃ x, a = .value x ∧ test x = .value b := by
  cases a <;> simp [andThen]

end Checked

namespace Settings

open Message

variable {texts : Text → Option Text} {settings : Settings} {name : Text}

/-- The fields of the settings that have a text. -/
def fieldsOfTexts (texts : Text → Option Text) : Fields :=
  names.filterMap fun name => (texts name).map fun value => (name, .text value)

/-- The text that a setting is read from. -/
def textOf? (environment : Environment) (file : List (Text × Option Text)) (name : Text) : Option Text :=
  (given? name environment).or (given? name file).join

/-- The settings are those that the texts give, with the default where a setting has none. -/
structure ReadFrom (texts : Text → Option Text) (settings : Settings) : Prop where
  indentSize : ((texts "AUTOCOMPLETE_INDENT_SIZE").map wholeOfText).getD (.value 2) =
    .value settings.indentSize
  positive : 0 < settings.indentSize
  diagnosticSource : (texts "AUTOCOMPLETE_DIAGNOSTIC_SOURCE").getD Marker.defaultSource =
    settings.diagnosticSource
  nodeTypeList : (texts "AUTOCOMPLETE_DEFAULT_NODE_TYPES").getD [] = settings.nodeTypeList
  linkTypeList : (texts "AUTOCOMPLETE_DEFAULT_LINK_TYPES").getD [] = settings.linkTypeList
  loggingConfigPath : (texts "LOGGING_CONFIG_PATH").getD "logging-config.yaml" =
    settings.loggingConfigPath

/-- Of the fields with a text each has its own. -/
theorem get?_texts (listed : List Text) (texts : Text → Option Text) (name : Text) :
    Environment.get? name (listed.filterMap fun name => (texts name).map fun value =>
      (name, Datum.text value)) = if name ∈ listed then (texts name).map .text else none := by
  induction listed with
  | nil => rfl
  | cons other rest ih =>
    cases held : texts other with
    | none =>
      rw [List.filterMap_cons_none (by rw [held]; rfl), ih]
      by_cases same : name = other
      · simp [same, held]
      · simp [same]
    | some value =>
      rw [List.filterMap_cons_some (by rw [held]; rfl), Environment.get?_cons, ih]
      by_cases same : name = other
      · simp [same, held]
      · simp [same, Ne.symm same]

theorem lookup_fieldsOfTexts (known : name ∈ names) (texts : Text → Option Text) :
    Datum.lookup name (fieldsOfTexts texts) = (texts name).map .text :=
  (get?_texts names texts name).trans (if_pos known)

theorem defaulted_whole_eq_value_iff (known : name ∈ names) {default i : Int} :
    defaulted (fieldsOfTexts texts) name readWhole default = .value i ↔
      ((texts name).map wholeOfText).getD (.value default) = .value i := by
  rw [defaulted, Checked.under_eq_value_iff, lookup_fieldsOfTexts known]
  cases texts name <;> simp [readWhole]

theorem defaulted_text_eq_value_iff (known : name ∈ names) {default t : Text} :
    defaulted (fieldsOfTexts texts) name readText default = .value t ↔
      (texts name).getD default = t := by
  rw [defaulted, Checked.under_eq_value_iff, lookup_fieldsOfTexts known]
  cases texts name <;> simp [readText]

theorem ofFieldsUnchecked_eq_value_iff {fields : Fields} {d : Settings} :
    ofFieldsUnchecked fields d = .value settings ↔
      defaulted fields "AUTOCOMPLETE_INDENT_SIZE" readWhole d.indentSize = .value settings.indentSize ∧
      defaulted fields "AUTOCOMPLETE_DIAGNOSTIC_SOURCE" readText d.diagnosticSource =
        .value settings.diagnosticSource ∧
      defaulted fields "AUTOCOMPLETE_DEFAULT_NODE_TYPES" readText d.nodeTypeList =
        .value settings.nodeTypeList ∧
      defaulted fields "AUTOCOMPLETE_DEFAULT_LINK_TYPES" readText d.linkTypeList =
        .value settings.linkTypeList ∧
      defaulted fields "LOGGING_CONFIG_PATH" readText d.loggingConfigPath =
        .value settings.loggingConfigPath := by
  simp only [ofFieldsUnchecked, Checked.seq_eq_value_iff, Checked.map_eq_value_iff]
  constructor
  · rintro ⟨_, path, ⟨_, links, ⟨_, nodes, ⟨_, source, ⟨indent, first, rfl⟩, second, rfl⟩, third, rfl⟩,
      fourth, rfl⟩, fifth, rfl⟩
    exact ⟨first, second, third, fourth, fifth⟩
  · rintro ⟨first, second, third, fourth, fifth⟩
    exact ⟨_, _, ⟨_, _, ⟨_, _, ⟨_, _, ⟨_, first, rfl⟩, second, rfl⟩, third, rfl⟩, fourth, rfl⟩, fifth, rfl⟩

/-- The settings that texts give: each text is read as it stands, and the indentation is checked. -/
theorem ofFields_eq_value_iff :
    ofFields (fieldsOfTexts texts) = .value settings ↔ ReadFrom texts settings := by
  have known (i : Fin 5) : names.get i ∈ names := List.get_mem names i
  unfold ofFields
  rw [Checked.andThen_eq_value_iff]
  constructor
  · rintro ⟨read, unchecked, checked⟩
    split at checked
    · next positive =>
      cases checked
      obtain ⟨first, second, third, fourth, fifth⟩ := ofFieldsUnchecked_eq_value_iff.1 unchecked
      exact {
        indentSize := (defaulted_whole_eq_value_iff (known 0)).1 first
        positive
        diagnosticSource := (defaulted_text_eq_value_iff (known 1)).1 second
        nodeTypeList := (defaulted_text_eq_value_iff (known 2)).1 third
        linkTypeList := (defaulted_text_eq_value_iff (known 3)).1 fourth
        loggingConfigPath := (defaulted_text_eq_value_iff (known 4)).1 fifth }
    · cases checked
  · intro given
    refine ⟨settings, ofFieldsUnchecked_eq_value_iff.2 ⟨?_, ?_, ?_, ?_, ?_⟩, if_pos given.positive⟩
    · exact (defaulted_whole_eq_value_iff (known 0)).2 given.indentSize
    · exact (defaulted_text_eq_value_iff (known 1)).2 given.diagnosticSource
    · exact (defaulted_text_eq_value_iff (known 2)).2 given.nodeTypeList
    · exact (defaulted_text_eq_value_iff (known 3)).2 given.linkTypeList
    · exact (defaulted_text_eq_value_iff (known 4)).2 given.loggingConfigPath

/-- Every setting reads the same from both texts: the indentation as a number, the others as they stand,
with the default where there is no text. -/
structure ReadsAlike (before after : Text → Option Text) : Prop where
  indentSize : ((before "AUTOCOMPLETE_INDENT_SIZE").map wholeOfText).getD (.value 2) =
    ((after "AUTOCOMPLETE_INDENT_SIZE").map wholeOfText).getD (.value 2)
  diagnosticSource : (before "AUTOCOMPLETE_DIAGNOSTIC_SOURCE").getD Marker.defaultSource =
    (after "AUTOCOMPLETE_DIAGNOSTIC_SOURCE").getD Marker.defaultSource
  nodeTypeList : (before "AUTOCOMPLETE_DEFAULT_NODE_TYPES").getD [] =
    (after "AUTOCOMPLETE_DEFAULT_NODE_TYPES").getD []
  linkTypeList : (before "AUTOCOMPLETE_DEFAULT_LINK_TYPES").getD [] =
    (after "AUTOCOMPLETE_DEFAULT_LINK_TYPES").getD []
  loggingConfigPath : (before "LOGGING_CONFIG_PATH").getD "logging-config.yaml" =
    (after "LOGGING_CONFIG_PATH").getD "logging-config.yaml"

theorem readsAlike_of_eq {before after : Text → Option Text}
    (same : ∀ name ∈ names, before name = after name) : ReadsAlike before after := by
  have each (i : Fin 5) : before (names.get i) = after (names.get i) := same _ (List.get_mem names i)
  constructor
  · exact congrArg (fun t => (t.map wholeOfText).getD (.value 2)) (each 0)
  · exact congrArg (fun t => t.getD Marker.defaultSource) (each 1)
  · exact congrArg (fun t => t.getD []) (each 2)
  · exact congrArg (fun t => t.getD []) (each 3)
  · exact congrArg (fun t => t.getD "logging-config.yaml".toList) (each 4)

/-- Texts give the settings that others gave exactly if they read alike. -/
theorem ReadFrom.iff_readsAlike {after : Text → Option Text} (given : ReadFrom texts settings) :
    ReadFrom after settings ↔ ReadsAlike texts after := by
  constructor
  · intro again
    exact {
      indentSize := given.indentSize.trans again.indentSize.symm
      diagnosticSource := given.diagnosticSource.trans again.diagnosticSource.symm
      nodeTypeList := given.nodeTypeList.trans again.nodeTypeList.symm
      linkTypeList := given.linkTypeList.trans again.linkTypeList.symm
      loggingConfigPath := given.loggingConfigPath.trans again.loggingConfigPath.symm }
  · intro alike
    exact {
      indentSize := alike.indentSize.symm.trans given.indentSize
      positive := given.positive
      diagnosticSource := alike.diagnosticSource.symm.trans given.diagnosticSource
      nodeTypeList := alike.nodeTypeList.symm.trans given.nodeTypeList
      linkTypeList := alike.linkTypeList.symm.trans given.linkTypeList
      loggingConfigPath := alike.loggingConfigPath.symm.trans given.loggingConfigPath }

end Settings
end GraphCompletion

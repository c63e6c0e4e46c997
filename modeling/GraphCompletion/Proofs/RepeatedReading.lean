import GraphCompletion.Proofs.FileVariables
import GraphCompletion.Proofs.SettingsTexts

/-!
# Reading the settings again

A reading of the settings leaves the variables of the file in the environment. In the environment it read
from they count only where that has none, but in the one it leaves behind they stand in front: a second
reading takes everything from there, and nothing from the file. So it repeats the first one exactly if
what the file sets names no other deployment and lets every setting read as it did.
-/
namespace GraphCompletion

namespace Configured

open EnvFile (assignments)

variable {environment : Environment} {file : Option Text} {first result : Configured}

/-- The variables of the file, which is read in development only. -/
def fileVariables (environment : Environment) (file : Option Text) :
    Deployment → List (Text × Option Text)
  | .development => (file.map (EnvFile.bindings environment)).getD []
  | _ => []

theorem fileVariables_of_ne {deployment : Deployment} (other : deployment ≠ .development) :
    fileVariables environment file deployment = [] := by
  cases deployment with
  | development => exact absurd rfl other
  | production => rfl
  | test => rfl

@[simp] theorem fileVariables_none (environment : Environment) (deployment : Deployment) :
    fileVariables environment none deployment = [] := by
  cases deployment <;> rfl

/-- A reading in a deployment that is known. -/
theorem read_of_deployment {deployment : Deployment}
    (named : deployment? environment = some deployment) : read environment file =
      (((Settings.ofFields (Settings.fieldsOfTexts
          (Settings.textOf? environment (fileVariables environment file deployment)))).toExcept.mapError
            SettingsError.invalid).bind fun settings =>
        if (assignments (fileVariables environment file deployment)).all isSettable then
          .ok ⟨deployment, settings,
            setAll environment (assignments (fileVariables environment file deployment))⟩
        else .error .unsettable) := by
  unfold read
  rw [named]
  cases deployment <;> cases file <;> rfl

theorem read_eq_ok_iff : read environment file = .ok result ↔
    deployment? environment = some result.deployment ∧
    Settings.ReadFrom (Settings.textOf? environment (fileVariables environment file result.deployment))
      result.settings ∧
    (assignments (fileVariables environment file result.deployment)).all isSettable = true ∧
    result.environment =
      setAll environment (assignments (fileVariables environment file result.deployment)) := by
  obtain ⟨deployment, settings, after⟩ := result
  cases named : deployment? environment with
  | none => simp [read, named]
  | some found =>
    rw [read_of_deployment named, ← Settings.ofFields_eq_value_iff]
    constructor
    · intro success
      cases outcome : Settings.ofFields (Settings.fieldsOfTexts
          (Settings.textOf? environment (fileVariables environment file found))) with
      | issues issues =>
        rw [outcome] at success
        cases success
      | value read =>
        rw [outcome] at success
        simp only [Checked.toExcept, Except.mapError, Except.bind] at success
        split at success
        · next settable =>
          cases success
          exact ⟨rfl, outcome, settable, rfl⟩
        · cases success
    · rintro ⟨same, outcome, settable, left⟩
      simp only at same outcome settable left
      cases same
      rw [outcome, left]
      exact if_pos settable

theorem nodup_fileVariables (environment : Environment) (file : Option Text) (deployment : Deployment) :
    ((fileVariables environment file deployment).map Prod.fst).Nodup := by
  cases deployment with
  | development =>
    cases file with
    | none => exact List.nodup_nil
    | some text => exact EnvFile.nodup_bindings environment text
  | production => exact List.nodup_nil
  | test => exact List.nodup_nil

/-- A second reading of the file finds the variables of the first one. -/
theorem fileVariables_akin {bindings : List (Text × Text)} (distinct : (bindings.map Prod.fst).Nodup)
    (settable : bindings.all isSettable = true) (file : Option Text) (deployment : Deployment) :
    EnvFile.Akin (fileVariables environment file deployment)
      (fileVariables (setAll environment bindings) file deployment) := by
  have kept (name : Text) : Environment.get? name (setAll environment bindings) =
      Environment.get? name environment ∨
        ∃ value, Environment.get? name (setAll environment bindings) = some value ∧ '\x00' ∉ value := by
    by_cases given : name ∈ bindings.map Prod.fst
    · obtain ⟨⟨_, value⟩, member, rfl⟩ := List.mem_map.1 given
      refine .inr ⟨value, get?_setAll_of_mem distinct member, ?_⟩
      have fits := List.all_eq_true.1 settable _ member
      simp only [isSettable, Bool.and_eq_true, Bool.not_eq_true', List.contains_eq_mem,
        decide_eq_false_iff_not] at fits
      exact fits.2
    · exact .inl (get?_setAll_of_not_mem given)
  cases deployment with
  | development =>
    cases file with
    | none => exact .nil
    | some text => exact EnvFile.bindings_akin kept text
  | production => exact .nil
  | test => exact .nil

/-- Where the variables of a file are set, each setting is read from the environment alone. -/
theorem textOf?_setAll {listed again : List (Text × Option Text)} (akin : EnvFile.Akin listed again)
    (name : Text) : Settings.textOf? (setAll environment (assignments listed)) again name =
      Settings.given? name (setAll environment (assignments listed)) := by
  unfold Settings.textOf?
  cases given : Settings.given? name (setAll environment (assignments listed)) with
  | some value => rfl
  | none =>
    rw [Settings.given?_eq_none_iff, Settings.spellings_setAll, setAll_eq_nil_iff] at given
    have unset : Settings.spellings name (assignments again) = [] := by
      rw [Settings.spellings_eq_nil_iff, ← akin.map_fst_assignments, ← Settings.spellings_eq_nil_iff]
      exact given.2
    rw [Settings.join_given?_of_not_assigned unset]
    rfl

theorem textOf?_nil (environment : Environment) (name : Text) :
    Settings.textOf? environment [] name = Settings.given? name environment := Option.or_none

theorem deployment?_setAll_of_mem {bindings : List (Text × Text)} {name : Text}
    (distinct : (bindings.map Prod.fst).Nodup) (member : (Deployment.variableName, name) ∈ bindings) :
    deployment? (setAll environment bindings) = Deployment.ofName? name := by
  unfold deployment?
  rw [get?_setAll_of_mem distinct member]

theorem deployment?_setAll_of_not_mem {bindings : List (Text × Text)}
    (other : Deployment.variableName ∉ bindings.map Prod.fst) :
    deployment? (setAll environment bindings) = deployment? environment := by
  unfold deployment?
  rw [get?_setAll_of_not_mem other]

/-- What a reading gives besides the environment that it leaves behind. -/
def outcome (result : Except SettingsError Configured) : Except SettingsError (Deployment × Settings) :=
  result.map fun configured => (configured.deployment, configured.settings)

theorem outcome_read {deployment : Deployment} (named : deployment? environment = some deployment)
    (settable : (assignments (fileVariables environment file deployment)).all isSettable = true) :
    outcome (read environment file) = ((Settings.ofFields (Settings.fieldsOfTexts (Settings.textOf? environment
      (fileVariables environment file deployment)))).toExcept.mapError SettingsError.invalid).map
        fun settings => (deployment, settings) := by
  rw [read_of_deployment named]
  simp only [settable, if_true]
  generalize Settings.ofFields _ = given
  cases given <;> rfl

/-- In the environment that a reading leaves behind the file adds no text for any setting, and its
variables can be set again. -/
theorem file_adds_nothing (success : read environment file = .ok first) {deployment : Deployment}
    (named : deployment? first.environment = some deployment) :
    (∀ name, Settings.textOf? first.environment (fileVariables first.environment file deployment) name =
      Settings.given? name first.environment) ∧
    (assignments (fileVariables first.environment file deployment)).all isSettable = true := by
  obtain ⟨before, _, settable, left⟩ := read_eq_ok_iff.1 success
  have distinct := EnvFile.nodup_assignments (nodup_fileVariables environment file first.deployment)
  by_cases same : deployment = first.deployment
  · subst same
    have akin : EnvFile.Akin (fileVariables environment file first.deployment)
        (fileVariables (setAll environment _) file first.deployment) :=
      fileVariables_akin distinct settable file first.deployment
    rw [left]
    exact ⟨textOf?_setAll akin, akin.all_isSettable settable⟩
  · have unread : fileVariables first.environment file deployment = [] := by
      by_cases development : deployment = .development
      · -- The first reading, in another deployment, left the environment as it was.
        have unread : fileVariables environment file first.deployment = [] :=
          fileVariables_of_ne (development ▸ Ne.symm same)
        rw [unread] at left
        rw [left] at named
        exact absurd (Option.some.inj (named.symm.trans before)) same
      · exact fileVariables_of_ne development
    rw [unread]
    exact ⟨textOf?_nil first.environment, rfl⟩

theorem outcome_read_again (success : read environment file = .ok first) :
    outcome (read first.environment file) = outcome (read first.environment none) := by
  cases named : deployment? first.environment with
  | none => simp [read, named]
  | some deployment =>
    obtain ⟨texts, settable⟩ := file_adds_nothing success named
    rw [outcome_read named settable, outcome_read named (by rw [fileVariables_none]; rfl),
      fileVariables_none, funext texts, funext (textOf?_nil first.environment)]

/-- The variables that the file sets keep the reading: they name no other deployment, and every setting
reads from the environment they are set in as it read before. -/
structure Settled (environment : Environment) (file : Option Text) (first : Configured) : Prop where
  deployment : ∀ name,
    (Deployment.variableName, name) ∈ assignments (fileVariables environment file first.deployment) →
      Deployment.ofName? name = some first.deployment
  settings : Settings.ReadsAlike
    (Settings.textOf? environment (fileVariables environment file first.deployment))
    fun name => Settings.given? name first.environment

theorem read_again_iff_settled (success : read environment file = .ok first) :
    (∃ again, read first.environment file = .ok again ∧ again.deployment = first.deployment ∧
      again.settings = first.settings) ↔ Settled environment file first := by
  obtain ⟨named, given, settable, left⟩ := read_eq_ok_iff.1 success
  have distinct := EnvFile.nodup_assignments (nodup_fileVariables environment file first.deployment)
  constructor
  · rintro ⟨again, repeated, deployment, settings⟩
    obtain ⟨namedAgain, givenAgain, _⟩ := read_eq_ok_iff.1 repeated
    rw [funext (file_adds_nothing success namedAgain).1, settings] at givenAgain
    refine ⟨fun name member => ?_, given.iff_readsAlike.1 givenAgain⟩
    rw [← deployment?_setAll_of_mem distinct member, ← left, namedAgain, deployment]
  · rintro ⟨deployment, settings⟩
    have namedAgain : deployment? first.environment = some first.deployment := by
      rw [left]
      by_cases renamed : Deployment.variableName ∈
          (assignments (fileVariables environment file first.deployment)).map Prod.fst
      · obtain ⟨⟨_, name⟩, member, rfl⟩ := List.mem_map.1 renamed
        rw [deployment?_setAll_of_mem distinct member]
        exact deployment name member
      · rw [deployment?_setAll_of_not_mem renamed, named]
    obtain ⟨texts, settableAgain⟩ := file_adds_nothing success namedAgain
    refine ⟨⟨first.deployment, first.settings, setAll first.environment
        (assignments (fileVariables first.environment file first.deployment))⟩,
      read_eq_ok_iff.2 ⟨namedAgain, ?_, settableAgain, rfl⟩, rfl, rfl⟩
    rw [funext texts]
    exact given.iff_readsAlike.2 settings

/-- The variables of a file agree with an environment: they name no deployment but development, and each
that spells a setting has a value, which every variable of the environment that spells it has too. -/
structure Agrees (environment : Environment) (listed : List (Text × Option Text)) : Prop where
  deployment : ∀ entry ∈ listed, entry.1 = Deployment.variableName →
    entry.2 = none ∨ entry.2 = some "dev".toList
  settings : ∀ name ∈ Settings.names, ∀ entry ∈ Settings.spellings name listed, entry.2 ≠ none ∧
    ∀ own ∈ Settings.spellings name environment, entry.2 = some own.2

instance (environment : Environment) (listed : List (Text × Option Text)) :
    Decidable (Agrees environment listed) :=
  decidable_of_iff (_ ∧ _) ⟨fun ⟨deployment, settings⟩ => ⟨deployment, settings⟩,
    fun ⟨deployment, settings⟩ => ⟨deployment, settings⟩⟩

/-- What the file sets a setting to is what the environment has for it. -/
theorem Agrees.own_eq_set {listed : List (Text × Option Text)} {name : Text}
    (agrees : Agrees environment listed) (known : name ∈ Settings.names) {entry own : Text × Text}
    (set : entry ∈ Settings.spellings name (assignments listed))
    (owned : own ∈ Settings.spellings name environment) : own.2 = entry.2 := by
  obtain ⟨assigned, spells⟩ := Settings.mem_spellings_iff.1 set
  have listed := EnvFile.mem_assignments_iff.1 assigned
  exact (Option.some.inj ((agrees.settings name known (entry.1, some entry.2)
    (Settings.mem_spellings_iff.2 ⟨listed, spells⟩)).2 own owned)).symm

theorem Agrees.given?_setAll {listed : List (Text × Option Text)} {name : Text}
    (agrees : Agrees environment listed) (distinct : (listed.map Prod.fst).Nodup)
    (known : name ∈ Settings.names) :
    Settings.given? name (setAll environment (assignments listed)) =
      Settings.textOf? environment listed name := by
  by_cases unset : Settings.spellings name (assignments listed) = []
  · rw [Settings.given?_setAll_of_not_spelled unset, Settings.textOf?,
      Settings.join_given?_of_not_assigned unset, Option.or_none]
  by_cases lacking : Settings.spellings name environment = []
  · have valued : ∀ entry ∈ Settings.spellings name listed, entry.2 ≠ none :=
      fun entry member => (agrees.settings name known entry member).1
    rw [Settings.given?_setAll_of_lacking (EnvFile.nodup_assignments distinct) lacking,
      Settings.given?_assignments valued, Settings.textOf?, Settings.given?_eq_none_iff.2 lacking,
      Option.none_or]
  -- Both set the setting, and then all its spellings have one value.
  obtain ⟨own, owned⟩ := List.exists_mem_of_ne_nil _ lacking
  obtain ⟨entry, set⟩ := List.exists_mem_of_ne_nil _ unset
  have shared : ∀ own ∈ Settings.spellings name environment, own.2 = entry.2 :=
    fun _ => agrees.own_eq_set known set
  have alike : ∀ other ∈ Settings.spellings name (assignments listed), other.2 = entry.2 :=
    fun _ member => (agrees.own_eq_set known member owned).symm.trans (shared own owned)
  rw [Settings.given?_setAll_of_alike lacking shared alike, Settings.textOf?,
    Settings.given?_of_alike lacking shared, Option.some_or]

/-- A file that agrees with the environment keeps the reading. -/
theorem settled_of_agrees (success : read environment file = .ok first)
    (agrees : first.deployment = .development → ∀ text, file = some text →
      Agrees environment (EnvFile.bindings environment text)) : Settled environment file first := by
  obtain ⟨_, _, _, left⟩ := read_eq_ok_iff.1 success
  have distinct := nodup_fileVariables environment file first.deployment
  have whole : Agrees environment (fileVariables environment file first.deployment) := by
    have nothing : Agrees environment [] := ⟨by simp, by simp [Settings.spellings]⟩
    cases deployment : first.deployment with
    | development =>
      cases file with
      | none => exact nothing
      | some text => exact agrees deployment text rfl
    | production => exact nothing
    | test => exact nothing
  refine ⟨fun name member => ?_, Settings.readsAlike_of_eq fun name known => ?_⟩
  · have listed := EnvFile.mem_assignments_iff.1 member
    have development : first.deployment = .development := by
      by_contra other
      rw [fileVariables_of_ne other] at listed
      cases listed
    have agreed := (whole.deployment _ listed rfl).resolve_left (Option.some_ne_none name)
    rw [Option.some.inj agreed, development]
    rfl
  · rw [left, whole.given?_setAll distinct known]

/-- A second reading, in the environment that the first one leaves behind, gives the same deployment and the
same settings exactly if the variables that the file sets keep the reading. They do outside development,
without a file, and where the file agrees with the environment. In any case the second reading gives what
the environment left behind gives without the file. -/
theorem reading_repeated_iff (success : read environment file = .ok first) :
    ((∃ again, read first.environment file = .ok again ∧ again.deployment = first.deployment ∧
      again.settings = first.settings) ↔ Settled environment file first) ∧
    ((first.deployment = .development → ∀ text, file = some text →
      Agrees environment (EnvFile.bindings environment text)) → Settled environment file first) ∧
    outcome (read first.environment file) = outcome (read first.environment none) :=
  ⟨read_again_iff_settled success, settled_of_agrees success, outcome_read_again success⟩

/-- The indentation that the environment has stands in the file too, and is read again. -/
theorem reading_repeated_with_same_indentation :
    let environment : Environment := [("AUTOCOMPLETE_INDENT_SIZE", "4")]
    let file : Text := "AUTOCOMPLETE_INDENT_SIZE=4\nLOGGING_CONFIG_PATH=log.yaml"
    ∃ first, read environment (some file) = .ok first ∧ Agrees environment (EnvFile.bindings environment file) ∧
      ∃ again, read first.environment (some file) = .ok again ∧ again.deployment = first.deployment ∧
        again.settings = first.settings := by
  intro environment file
  have success : read environment (some file) = .ok ⟨.development,
      { indentSize := 4, loggingConfigPath := "log.yaml" },
      [("AUTOCOMPLETE_INDENT_SIZE", "4"), ("LOGGING_CONFIG_PATH", "log.yaml")]⟩ := by decide
  have agrees : Agrees environment (EnvFile.bindings environment file) := by decide
  refine ⟨_, success, agrees, ?_⟩
  obtain ⟨repeated, kept, _⟩ := reading_repeated_iff success
  refine repeated.2 (kept fun _ text same => ?_)
  cases same
  exact agrees

/-- An indentation in the file that is not that of the environment is read the second time only, and so is
another deployment that the file names. -/
theorem reading_changed_by_file :
    (let environment : Environment := [("AUTOCOMPLETE_INDENT_SIZE", "4")]
      let file : Text := "AUTOCOMPLETE_INDENT_SIZE=2"
      ∃ first again, read environment (some file) = .ok first ∧
        read first.environment (some file) = .ok again ∧
        first.settings.indentSize = 4 ∧ again.settings.indentSize = 2) ∧
    (let file : Text := "APP_ENV=prod"
      ∃ first again, read [] (some file) = .ok first ∧ read first.environment (some file) = .ok again ∧
        first.deployment = .development ∧ again.deployment = .production) := by
  constructor
  · exact ⟨⟨.development, { indentSize := 4 }, [("AUTOCOMPLETE_INDENT_SIZE", "2")]⟩,
      ⟨.development, { indentSize := 2 }, [("AUTOCOMPLETE_INDENT_SIZE", "2")]⟩, by decide,
      by decide, rfl, rfl⟩
  · exact ⟨⟨.development, {}, [("APP_ENV", "prod")]⟩, ⟨.production, {}, [("APP_ENV", "prod")]⟩,
      by decide, by decide, rfl, rfl⟩

end Configured
end GraphCompletion

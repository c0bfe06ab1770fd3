import AlertContacts.Client.Script
import AlertContacts.Proofs.Record
import AlertContacts.Proofs.Schema
import AlertContacts.Provider.Interface

/-!
# Settings

Settings pass two checks: the schema's, and that of decoding them. Where both accept, the settings are
installed; where one refuses, an error is reported and the provider stays as it is
(`ContactProvider.configure_ends`). So after any number of calls the settings of the last one without an
error are active (`ContactProvider.last_accepted_settings_are_active`), and the settings that are written
out for a configuration bring it back.

The two checks disagree about null. To the schema a setting that is null is one that is absent, but
decoding has defaults for absent settings alone and takes no null. Hence null counts as absent only where
an error is reported either way (`ContactProvider.null_counts_as_absent_iff`).
-/

namespace AlertContacts

open Json

variable {σ τ α : Type}

/-- There is an error among the diagnostics. -/
def Refused (diagnostics : List Diagnostic) : Prop :=
  ∃ diagnostic ∈ diagnostics, diagnostic.isError = true

theorem refused_iff_any {diagnostics : List Diagnostic} :
    Refused diagnostics ↔ diagnostics.any Diagnostic.isError = true :=
  List.any_eq_true.symm

instance (diagnostics : List Diagnostic) : Decidable (Refused diagnostics) :=
  decidable_of_iff _ refused_iff_any.symm

theorem not_refused_nil : ¬Refused [] := by
  simp [Refused]

/-- What the schema reports is refused unless nothing is reported. -/
theorem Schema.refused_validate_iff {schema : Schema} {value : Value} :
    Refused (schema.validate value) ↔ schema.validate value ≠ [] := by
  constructor
  · rintro ⟨diagnostic, reported, -⟩
    exact List.ne_nil_of_mem reported
  · intro reports
    rcases List.exists_mem_of_ne_nil _ reports with ⟨diagnostic, reported⟩
    exact ⟨diagnostic, reported, isError_of_mem_validate diagnostic reported⟩

/-! ### Configuring once -/

/-- What is reported of settings that do not decode. -/
def undecodableSettings (message : String) : Diagnostic :=
  (Diagnostic.error "Invalid provider configuration").withDetail message

namespace ContactProvider

/-- Every way in which a provider can take settings, with the diagnostics and the provider behind it. -/
inductive ConfigureEnds (provider : ContactProvider σ) (settings : Value) :
    List Diagnostic → ContactProvider σ → Prop where
  | invalid (reports : ProviderConfig.schema.validate settings ≠ []) :
      ConfigureEnds provider settings (ProviderConfig.schema.validate settings) provider
  | undecodable {error : ProviderError} (valid : ProviderConfig.schema.validate settings = [])
      (fails : ProviderConfig.ofValue settings = .error error) :
      ConfigureEnds provider settings [undecodableSettings error.message] provider
  | installed {config : ProviderConfig} (valid : ProviderConfig.schema.validate settings = [])
      (decodes : ProviderConfig.ofValue settings = .ok config) :
      ConfigureEnds provider settings [] { provider with config := config }

/-- A provider takes settings in one of these ways. -/
theorem configure_ends (provider : ContactProvider σ) (settings : Value) :
    provider.ConfigureEnds settings (provider.configure settings).1
      (provider.configure settings).2.1 := by
  unfold configure
  by_cases valid : ProviderConfig.schema.validate settings = []
  · rw [valid]
    cases decoded : ProviderConfig.ofValue settings with
    | error error => exact .undecodable valid decoded
    | ok config => exact .installed valid decoded
  · have refused := refused_iff_any.1 (Schema.refused_validate_iff.2 valid)
    rw [if_pos refused]
    exact .invalid valid

section ends

variable {provider after : ContactProvider σ} {settings : Value} {diagnostics : List Diagnostic}
  {config : ProviderConfig} {error : ProviderError}

/-- Settings that are refused change nothing. -/
theorem ConfigureEnds.eq_of_refused (ends : provider.ConfigureEnds settings diagnostics after)
    (refused : Refused diagnostics) : after = provider := by
  cases ends with
  | invalid _ => rfl
  | undecodable _ _ => rfl
  | installed _ _ => exact absurd refused not_refused_nil

/-- Settings that are not refused decode, and are installed. -/
theorem ConfigureEnds.exists_of_not_refused (ends : provider.ConfigureEnds settings diagnostics after)
    (accepted : ¬Refused diagnostics) :
    ∃ config, ProviderConfig.ofValue settings = .ok config ∧
      after = { provider with config := config } := by
  cases ends with
  | invalid reports => exact absurd (Schema.refused_validate_iff.2 reports) accepted
  | undecodable _ _ => exact absurd ⟨_, List.mem_singleton_self _, rfl⟩ accepted
  | installed _ decodes => exact ⟨_, decodes, rfl⟩

/-- Settings that the schema reports on are not installed, and its report is the one that is given. -/
theorem ConfigureEnds.eq_of_invalid (ends : provider.ConfigureEnds settings diagnostics after)
    (reports : ProviderConfig.schema.validate settings ≠ []) :
    diagnostics = ProviderConfig.schema.validate settings ∧ after = provider := by
  cases ends with
  | invalid _ => exact ⟨rfl, rfl⟩
  | undecodable valid _ => exact absurd valid reports
  | installed valid _ => exact absurd valid reports

/-- What is active behind a call is given by its report. -/
theorem ConfigureEnds.exists_config (ends : provider.ConfigureEnds settings diagnostics after) :
    ∃ config, (if Refused diagnostics then .ok provider.config else ProviderConfig.ofValue settings) =
        .ok config ∧ after = { provider with config := config } := by
  by_cases refused : Refused diagnostics
  · exact ⟨provider.config, if_pos refused, ends.eq_of_refused refused⟩
  · rcases ends.exists_of_not_refused refused with ⟨config, decodes, installed⟩
    exact ⟨config, (if_neg refused).trans decodes, installed⟩

/-- Settings that both checks accept are installed without a report. -/
theorem ConfigureEnds.eq_of_ofValue (ends : provider.ConfigureEnds settings diagnostics after)
    (valid : ProviderConfig.schema.validate settings = [])
    (decodes : ProviderConfig.ofValue settings = .ok config) :
    diagnostics = [] ∧ after = { provider with config := config } := by
  cases ends with
  | invalid reports => exact absurd valid reports
  | undecodable _ fails => cases decodes.symm.trans fails
  | installed _ decodesAgain =>
      cases decodes.symm.trans decodesAgain
      exact ⟨rfl, rfl⟩

/-- Settings that the schema alone accepts are refused. -/
theorem ConfigureEnds.eq_of_error (ends : provider.ConfigureEnds settings diagnostics after)
    (valid : ProviderConfig.schema.validate settings = [])
    (fails : ProviderConfig.ofValue settings = .error error) :
    diagnostics = [undecodableSettings error.message] ∧ after = provider := by
  cases ends with
  | invalid reports => exact absurd valid reports
  | undecodable _ failsAgain =>
      cases fails.symm.trans failsAgain
      exact ⟨rfl, rfl⟩
  | installed _ decodes => cases fails.symm.trans decodes

end ends

end ContactProvider

/-! ### Settings written out -/

namespace ProviderConfig

variable (flag limit : Value)

theorem insert_flag : Entries.insert "log_sql" flag [("statement_timeout_secs", limit)] =
    [("log_sql", flag), ("statement_timeout_secs", limit)] := by
  rw [Entries.insert, if_neg (by decide), if_pos (by decide)]

theorem insert_limit : Entries.insert "statement_timeout_secs" limit [("log_sql", flag)] =
    [("log_sql", flag), ("statement_timeout_secs", limit)] := by
  rw [Entries.insert, if_neg (by decide), if_neg (by decide), Entries.insert]

theorem toValue_eq (config : ProviderConfig) :
    config.toValue =
      .object [("log_sql", .boolean config.logSql),
        ("statement_timeout_secs", .number (.natural config.statementTimeoutSecs))] := by
  rw [toValue, Value.ofEntries, Entries.ofList, List.foldl_cons, List.foldl_cons, List.foldl_nil]
  exact congrArg Value.object (insert_flag _ _)

/-- A configuration that is written out as settings is read from them again. -/
theorem ofValue_toValue (config : ProviderConfig) :
    ofValue config.toValue = .ok config := by
  rw [toValue_eq]
  rfl

/-- The schema has nothing to report of a configuration that is written out. -/
theorem validate_toValue (config : ProviderConfig) :
    schema.validate config.toValue = [] := by
  rw [toValue_eq]
  rfl

end ProviderConfig

/-! ### Configuring again and again -/

/-- Settings are given one after the other, and each call has its diagnostics. -/
def Provider.configureAll (provider : Provider τ) :
    List Value → Run τ ProviderError (List (List Diagnostic))
  | [] => pure []
  | settings :: rest => do
    let diagnostics ← provider.configure settings
    let others ← provider.configureAll rest
    return diagnostics :: others

/-- The settings of the last call that was not refused. -/
def lastAccepted? (calls : List (Value × List Diagnostic)) : Option Value :=
  (calls.filter fun call => ¬Refused call.2).getLast?.map Prod.fst

/-- A call in front of others counts only where none of them was accepted. -/
theorem elim_lastAccepted?_cons (initial : α) (take : Value → α) (settings : Value)
    (diagnostics : List Diagnostic) (calls : List (Value × List Diagnostic)) :
    (lastAccepted? ((settings, diagnostics) :: calls)).elim initial take =
      (lastAccepted? calls).elim (if Refused diagnostics then initial else take settings) take := by
  by_cases refused : Refused diagnostics
  · simp [lastAccepted?, refused]
  · rw [lastAccepted?, List.filter_cons_of_pos (by simpa using refused), List.getLast?_cons,
      lastAccepted?, if_neg refused]
    cases (calls.filter fun call => ¬Refused call.2).getLast? with
    | none => rfl
    | some last => rfl

namespace ContactProvider

variable {provider : ContactProvider σ} {config : ProviderConfig} {hosted : Hosted σ}

/-- A call to configure takes the settings in one of the ways, and asks the client nothing. -/
theorem run_configure (settings : Value) (hosted : Hosted σ) :
    ∃ diagnostics after, (ContactProvider.provider.configure settings).run hosted =
        (.ok diagnostics, after) ∧
      hosted.provider.ConfigureEnds settings diagnostics after.provider ∧
        after.session.client = hosted.session.client :=
  ⟨_, _, rfl, hosted.provider.configure_ends settings, rfl⟩

/-- After any number of calls the settings of the last one that was not refused are active. -/
theorem run_configureAll (calls : List Value) (hosted : Hosted σ) :
    ∃ reports config after, (ContactProvider.provider.configureAll calls).run hosted =
        (.ok reports, after) ∧ reports.length = calls.length ∧
      (lastAccepted? (calls.zip reports)).elim (.ok hosted.provider.config) ProviderConfig.ofValue =
        .ok config ∧
      after.provider = { hosted.provider with config := config } ∧
        after.session.client = hosted.session.client := by
  -- The later calls start from what the first one leaves behind, whatever became of it.
  induction calls generalizing hosted with
  | nil => exact ⟨[], _, hosted, rfl, rfl, rfl, rfl, rfl⟩
  | cons settings calls ih =>
      rcases run_configure settings hosted with ⟨diagnostics, middle, runs, ends, same⟩
      rcases ends.exists_config with ⟨chosen, taken, configured⟩
      rcases ih middle with ⟨reports, config, after, continues, length, active, installed, sameAgain⟩
      rw [configured] at active installed
      refine ⟨diagnostics :: reports, config, after, ?_, ?_, ?_, installed, sameAgain.trans same⟩
      · rw [Provider.configureAll, Run.run_bind, runs]
        simp [continues]
      · simp [length]
      · rw [List.zip_cons_cons, elim_lastAccepted?_cons, taken]
        exact active

/-- Settings that are written out for a configuration install it, without a report. -/
theorem configure_toValue (config : ProviderConfig) (hosted : Hosted σ) :
    ∃ after, (ContactProvider.provider.configure config.toValue).run hosted = (.ok [], after) ∧
      after.provider = { hosted.provider with config := config } ∧
        after.session.client = hosted.session.client := by
  rcases run_configure config.toValue hosted with ⟨diagnostics, after, runs, ends, same⟩
  rcases ends.eq_of_ofValue config.validate_toValue config.ofValue_toValue with ⟨rfl, installed⟩
  exact ⟨after, runs, installed, same⟩

/--
After any number of calls the settings of the last one without an error are active, or the initial ones if
there is none. A call with an error changes nothing, one without installs its settings, and every
configuration can be installed by writing it out. The client is not asked anything.
-/
theorem last_accepted_settings_are_active (hosted : Hosted σ) :
    (∀ calls, ∃ reports config after,
      (ContactProvider.provider.configureAll calls).run hosted = (.ok reports, after) ∧
        reports.length = calls.length ∧
        (lastAccepted? (calls.zip reports)).elim (.ok hosted.provider.config)
          ProviderConfig.ofValue = .ok config ∧
        after.provider = { hosted.provider with config := config } ∧
        after.session.client = hosted.session.client) ∧
    (∀ settings, ∃ diagnostics after,
      (ContactProvider.provider.configure settings).run hosted = (.ok diagnostics, after) ∧
        (Refused diagnostics → after.provider = hosted.provider) ∧
        (¬Refused diagnostics → ∃ config, ProviderConfig.ofValue settings = .ok config ∧
          after.provider = { hosted.provider with config := config })) ∧
    ∀ config : ProviderConfig, ∃ after,
      (ContactProvider.provider.configure config.toValue).run hosted = (.ok [], after) ∧
        after.provider = { hosted.provider with config := config } := by
  refine ⟨?_, ?_, ?_⟩
  · intro calls
    exact run_configureAll calls hosted
  · intro settings
    rcases run_configure settings hosted with ⟨diagnostics, after, runs, ends, -⟩
    exact ⟨diagnostics, after, runs, ends.eq_of_refused, ends.exists_of_not_refused⟩
  · intro config
    rcases configure_toValue config hosted with ⟨after, runs, installed, -⟩
    exact ⟨after, runs, installed⟩

/-- A provider with the settings it starts with. -/
def startingHost : Hosted Script :=
  ⟨⟨Script.client, {}⟩, ⟨{}, []⟩⟩

/-- Settings that are accepted, a limit that only decoding refuses, and a flag that the schema refuses. -/
def settingsInTurn : List Value :=
  [.object [("statement_timeout_secs", .number (.natural 5))],
    .object [("statement_timeout_secs", .number (.negative ⟨0, by decide⟩))],
    .object [("log_sql", .string "yes")]]

theorem last_accepted_settings_are_active_refused_twice :
    ∃ reports after, (ContactProvider.provider.configureAll settingsInTurn).run startingHost =
        (.ok reports, after) ∧
      reports.map (decide <| Refused ·) = [false, true, true] ∧
        after.provider.config = { statementTimeoutSecs := 5 } := by
  rcases (last_accepted_settings_are_active startingHost).1 settingsInTurn with
    ⟨reports, config, after, runs, -, active, installed, -⟩
  have reported : reports = [[], _, _] := (Except.ok.inj (congrArg Prod.fst runs)).symm
  subst reported
  cases active
  exact ⟨_, after, runs, rfl, congrArg ContactProvider.config installed⟩

end ContactProvider

/-! ### Null and absent settings -/

theorem getElem?_append_of_lt {first rest : String} {index : Nat}
    (inside : index < first.toList.length) :
    (first ++ rest).toList[index]? = first.toList[index]? := by
  rw [String.toList_append, List.getElem?_append_left inside]

/-- The two kinds of errors begin with other words. -/
theorem Json.DecodeError.message_invalidValue_ne {found other : Found} {expected wanted : Expected} :
    (DecodeError.invalidValue found expected).message ≠
      (DecodeError.invalidType other wanted).message := by
  change "invalid value: " ++ found.text ++ ", expected " ++ expected.text ≠
    "invalid type: " ++ other.text ++ ", expected " ++ wanted.text
  rw [String.append_assoc, String.append_assoc, String.append_assoc, String.append_assoc]
  intro same
  have letters := congrArg (fun text => text.toList[8]?) same
  simp only [getElem?_append_of_lt (by decide +kernel : 8 < "invalid value: ".toList.length),
    getElem?_append_of_lt (by decide +kernel : 8 < "invalid type: ".toList.length)] at letters
  exact absurd letters (by decide +kernel)

namespace ProviderConfig

variable {entries : Entries Value} {name : String} {value : Value}

theorem names_schema : schema.attributes.names = ["log_sql", "statement_timeout_secs"] := rfl

theorem declared_iff :
    schema.attributes.has name = true ↔ name = "log_sql" ∨ name = "statement_timeout_secs" := by
  rw [Entries.has_iff_mem_names, names_schema]
  simp

/-- To the schema a limit is null or a whole number. -/
theorem limit_of_valid (valid : schema.validate (.object entries) = [])
    (found : entries.find? "statement_timeout_secs" = some value) :
    value = .null ∨ ∃ number, value = .number number ∧ number.isInteger = true := by
  apply AttributeType.check_int64_eq_nil_iff.1
  exact Schema.check_eq_nil_of_find? rfl rfl rfl valid found

/-- To the schema a flag is null or a Boolean. -/
theorem flag_of_valid (valid : schema.validate (.object entries) = [])
    (found : entries.find? "log_sql" = some value) :
    value = .null ∨ ∃ flag, value = .boolean flag := by
  apply AttributeType.check_bool_eq_nil_iff.1
  exact Schema.check_eq_nil_of_find? rfl rfl rfl valid found

theorem ofValue_object_eq_error_iff {error : ProviderError} :
    ofValue (.object entries) = .error error ↔
      ∃ reason, decode (.object entries) = .error reason ∧
        ProviderError.configuration reason.message = error :=
  mapError_eq_error_iff

/-- Valid settings that lack one of the two are none, or the other one. -/
theorem eq_nil_or_singleton_of_valid {lacking other : String} (ascending : entries.Ascending)
    (valid : schema.validate (.object entries) = []) (absent : entries.find? lacking = none)
    (both : ∀ name, schema.attributes.has name = true → name = lacking ∨ name = other) :
    entries = [] ∨ ∃ value, entries = [(other, value)] := by
  apply Entries.eq_nil_or_singleton ascending
  rintro ⟨name, value⟩ member
  rcases both name ((Schema.validate_object_eq_nil_iff.1 valid).2 _ member) with rfl | same
  · cases absent.symm.trans (Entries.find?_of_mem ascending member)
  · exact same

/-- A flag that is null does not decode, and no settings without a flag give the same error. -/
theorem null_flag_differs (ascending : entries.Ascending)
    (valid : schema.validate (.object entries) = []) (absent : entries.find? "log_sql" = none) :
    ∃ error, decode (.object (entries.insert "log_sql" .null)) = .error error ∧
      ∀ other, decode (.object entries) = .error other → other.message ≠ error.message := by
  have both : ∀ name, schema.attributes.has name = true →
      name = "log_sql" ∨ name = "statement_timeout_secs" := fun _ => declared_iff.1
  -- The flag comes first in the order of the names, so its error is reported whatever the limit is.
  refine ⟨.invalidType .null .boolean, ?_⟩
  rcases eq_nil_or_singleton_of_valid ascending valid absent both with rfl | ⟨value, rfl⟩
  · exact ⟨rfl, by rintro other ⟨⟩⟩
  · rw [insert_flag]
    refine ⟨rfl, ?_⟩
    rcases limit_of_valid valid (if_pos rfl) with rfl | ⟨number, rfl, whole⟩
    · rintro other ⟨⟩
      decide +kernel
    · cases number with
      | natural limit => rintro other ⟨⟩
      | negative below =>
          rintro other ⟨⟩
          exact DecodeError.message_invalidValue_ne
      | float value => cases whole

/-- A limit that is null does not decode. The error is the same without it if the flag is null too. -/
theorem null_limit_differs_iff (ascending : entries.Ascending)
    (valid : schema.validate (.object entries) = [])
    (absent : entries.find? "statement_timeout_secs" = none) :
    ∃ error, decode (.object (entries.insert "statement_timeout_secs" .null)) = .error error ∧
      ((∃ other, decode (.object entries) = .error other ∧ other.message = error.message) ↔
        entries.find? "log_sql" = some .null) := by
  have both : ∀ name, schema.attributes.has name = true →
      name = "statement_timeout_secs" ∨ name = "log_sql" := fun _ => Or.symm ∘ declared_iff.1
  rcases eq_nil_or_singleton_of_valid ascending valid absent both with rfl | ⟨value, rfl⟩
  · refine ⟨.invalidType .null .unsigned, rfl, ?_⟩
    apply iff_of_false
    · rintro ⟨other, ⟨⟩, -⟩
    · rintro ⟨⟩
  · rw [insert_limit]
    -- Behind a flag that is null the limit is not looked at.
    rcases flag_of_valid valid (if_pos rfl) with rfl | ⟨flag, rfl⟩
    · exact ⟨.invalidType .null .boolean, rfl, iff_of_true ⟨_, rfl, rfl⟩ rfl⟩
    · refine ⟨.invalidType .null .unsigned, rfl, ?_⟩
      apply iff_of_false
      · rintro ⟨other, ⟨⟩, -⟩
      · rintro ⟨⟩

/--
A null for an absent setting does not decode. Without it the error is the same exactly if it stands
for the limit and the flag is null.
-/
theorem null_differs_iff (ascending : entries.Ascending)
    (declared : schema.attributes.has name = true) (absent : entries.find? name = none)
    (valid : schema.validate (.object entries) = []) :
    ∃ error, decode (.object (entries.insert name .null)) = .error error ∧
      ((∃ other, decode (.object entries) = .error other ∧ other.message = error.message) ↔
        name = "statement_timeout_secs" ∧ entries.find? "log_sql" = some .null) := by
  rcases declared_iff.1 declared with rfl | rfl
  · rcases null_flag_differs ascending valid absent with ⟨error, fails, differs⟩
    refine ⟨error, fails, iff_of_false ?_ ?_⟩
    · rintro ⟨other, failsToo, same⟩
      exact differs other failsToo same
    · rintro ⟨limit, -⟩
      exact absurd limit (by decide)
  · simpa using null_limit_differs_iff ascending valid absent

end ProviderConfig

namespace ContactProvider

/-- Either settings are reported the same, and leave the same settings active. -/
def ConfiguresAlike (provider : ContactProvider σ) (first second : Value) : Prop :=
  (provider.configure first).1 = (provider.configure second).1 ∧
    (provider.configure first).2.1.config = (provider.configure second).2.1.config

variable {provider : ContactProvider σ} {first second : Value}

/-- Settings that do not decode are alike to those that do not decode for the same reason. -/
theorem configuresAlike_iff_of_error {error : ProviderError}
    (valid : ProviderConfig.schema.validate first = [])
    (fails : ProviderConfig.ofValue first = .error error)
    (validToo : ProviderConfig.schema.validate second = []) :
    provider.ConfiguresAlike first second ↔
      ∃ other, ProviderConfig.ofValue second = .error other ∧ other.message = error.message := by
  rcases (provider.configure_ends first).eq_of_error valid fails with ⟨reported, kept⟩
  rw [ConfiguresAlike, reported, kept]
  cases decoded : ProviderConfig.ofValue second with
  | ok config =>
      rcases (provider.configure_ends second).eq_of_ofValue validToo decoded with ⟨accepted, -⟩
      simp [accepted]
  | error other =>
      rcases (provider.configure_ends second).eq_of_error validToo decoded with
        ⟨reportedToo, keptToo⟩
      rw [reportedToo, keptToo]
      simp [undecodableSettings, Diagnostic.withDetail, eq_comm]

/--
A null that stands for an absent setting is refused, whatever else is set. So it counts as absent only where
the other settings are refused as well, for the same reasons: those that the schema gives, or that the flag
in front of the limit is null too.
-/
theorem null_counts_as_absent_iff (provider : ContactProvider σ) {entries : Entries Value}
    (ascending : entries.Ascending) {name : String}
    (declared : ProviderConfig.schema.attributes.has name = true)
    (absent : entries.find? name = none) :
    Refused (provider.configure (.object (entries.insert name .null))).1 ∧
      (provider.configure (.object (entries.insert name .null))).2.1 = provider ∧
      (provider.ConfiguresAlike (.object (entries.insert name .null)) (.object entries) ↔
        ProviderConfig.schema.validate (.object entries) ≠ [] ∨
          name = "statement_timeout_secs" ∧ entries.find? "log_sql" = some .null) := by
  have same := Schema.validate_insert_null declared absent
  by_cases valid : ProviderConfig.schema.validate (.object entries) = []
  · rcases ProviderConfig.null_differs_iff ascending declared absent valid with
      ⟨error, fails, alike⟩
    have refuses := ProviderConfig.ofValue_object_eq_error_iff.2 ⟨error, fails, rfl⟩
    rw [valid] at same
    rcases (provider.configure_ends _).eq_of_error same refuses with ⟨reported, kept⟩
    refine ⟨?_, kept, ?_⟩
    · rw [reported]
      exact ⟨_, List.mem_singleton_self _, rfl⟩
    · rw [configuresAlike_iff_of_error same refuses valid, or_iff_right (not_not_intro valid), ← alike]
      simp only [ProviderConfig.ofValue_object_eq_error_iff]
      constructor
      · rintro ⟨_, ⟨reason, failsToo, rfl⟩, equal⟩
        exact ⟨reason, failsToo, equal⟩
      · rintro ⟨reason, failsToo, equal⟩
        exact ⟨_, ⟨reason, failsToo, rfl⟩, equal⟩
  · have reports : ProviderConfig.schema.validate (.object (entries.insert name .null)) ≠ [] := by
      rwa [same]
    rcases (provider.configure_ends _).eq_of_invalid reports with ⟨reported, kept⟩
    rcases (provider.configure_ends _).eq_of_invalid valid with ⟨reportedToo, keptToo⟩
    refine ⟨?_, kept, iff_of_true ?_ (.inl valid)⟩
    · rw [reported]
      exact Schema.refused_validate_iff.2 reports
    · rw [ConfiguresAlike, reported, reportedToo, kept, keptToo, same]
      exact ⟨rfl, rfl⟩

/-- A provider that was configured before. -/
def loggingProvider : ContactProvider Script :=
  ⟨Script.client, { statementTimeoutSecs := 7, logSql := true }⟩

theorem null_counts_as_absent_iff_both_null :
    loggingProvider.ConfiguresAlike
        (.object (Entries.insert "statement_timeout_secs" .null [("log_sql", .null)]))
        (.object [("log_sql", .null)]) ∧
      ¬loggingProvider.ConfiguresAlike
        (.object (Entries.insert "log_sql" .null [("statement_timeout_secs", .number (.natural 5))]))
        (.object [("statement_timeout_secs", .number (.natural 5))]) := by
  have flagNull : Entries.Ascending [("log_sql", Value.null)] := List.pairwise_singleton _ _
  have limitGiven : Entries.Ascending [("statement_timeout_secs", Value.number (.natural 5))] :=
    List.pairwise_singleton _ _
  constructor
  · apply (null_counts_as_absent_iff loggingProvider flagNull rfl rfl).2.2.2
    exact .inr ⟨rfl, rfl⟩
  · rw [(null_counts_as_absent_iff loggingProvider limitGiven rfl rfl).2.2]
    rintro (invalid | ⟨limit, -⟩)
    · exact invalid rfl
    · exact absurd limit (by decide)

/-- Without a flag the defaults are installed, and with null for the flag the settings are refused. -/
theorem null_flag_is_not_absent :
    ProviderConfig.schema.attributes.has "log_sql" = true ∧
      (loggingProvider.configure (.object [])).1 = [] ∧
      (loggingProvider.configure (.object [])).2.1.config = {} ∧
      (loggingProvider.configure (.object (Entries.insert "log_sql" .null []))).1 =
        [undecodableSettings "invalid type: null, expected a boolean"] ∧
      (loggingProvider.configure (.object (Entries.insert "log_sql" .null []))).2.1.config =
        { statementTimeoutSecs := 7, logSql := true } ∧
      ¬loggingProvider.ConfiguresAlike (.object (Entries.insert "log_sql" .null [])) (.object []) :=
  ⟨rfl, rfl, rfl, rfl, rfl, by rintro ⟨⟨⟩, -⟩⟩

end ContactProvider

end AlertContacts

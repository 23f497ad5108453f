import KbConsole.Config
import KbConsole.Proofs.Json.RoundTrip

/-
  The stored file as a record of two fields.

  What is read from a file, whatever it holds, is such a
  record. A change of the file changes the record and leaves
  the field alone that it is not about, although every
  change reads the whole file and writes it anew.

  Key definitions include:
    * `Preferences`
    * `Change`, `Change.apply`, `Change.perform`
    * `Config.Holds`

  The main statement is `Config.holds_run`, for any number
  of changes. A single change is `Config.holds_perform`.
-/

namespace KbConsole

------------------------------------------------------------
-- The Record
------------------------------------------------------------

/- A server address and a project; each may be missing. -/
structure Preferences where
  serverUrl : Option String := none
  project : Option String := none
deriving DecidableEq, Repr, Inhabited

/-
  The text of a variable, else that of the record, else a
  default. An empty text counts as missing.
-/
def firstGiven
    (variableText stored : Option String)
    (default : String) : String :=
  ((given? variableText).or (given? stored)).getD default

/- Where the first given text was found. -/
def sourceOfFirst
    (variableText stored : Option String) : Source :=
  if (given? variableText).isSome then
    .environment
  else if (given? stored).isSome then
    .stored
  else
    .default

namespace Preferences

/- The entries of a record, the address first. -/
def entries (p : Preferences) : Stored :=
  (p.serverUrl.map (Stored.serverUrlKey, ·)).toList ++
    (p.project.map (Stored.projectKey, ·)).toList

/- The record of stored entries. -/
def ofStored (stored : Stored) : Preferences where
  serverUrl := Keyed.get? Stored.serverUrlKey stored
  project := Keyed.get? Stored.projectKey stored

theorem ofStored_entries (p : Preferences) :
    ofStored p.entries = p := by
  rcases p with ⟨_ | url, _ | project⟩
  · rfl
  · rfl
  · rfl
  · rfl

end Preferences

/- A change of what is stored. -/
inductive Change where
  | serverUrl (url : String)
  | project (name : String)
  | clear
deriving DecidableEq, Repr

namespace Change

/- A change of the record: one field, or both at once. -/
def apply (p : Preferences) : Change → Preferences
  | serverUrl url => { p with serverUrl := some url }
  | project name => { p with project := some name }
  | clear => {}

/- A change of the stored file. -/
def perform (config : Config) : Change → Config
  | serverUrl url => config.setServerUrl url
  | project name => config.setProject name
  | clear => config.clear

end Change

------------------------------------------------------------
-- Stored Entries
------------------------------------------------------------

namespace Stored

/- The keys that a file is read for. -/
def knownKeys : List String :=
  [serverUrlKey, projectKey]

/- No known key is an array index, so none is reordered. -/
theorem index?_of_known
    {key : String}
    (hKnown : key ∈ knownKeys) :
    Keyed.index? key = none := by
  revert key
  decide

/- Entries under known keys, each of them once. -/
structure IsKnown (stored : Stored) : Prop where
  distinct : (Keyed.keys stored).Nodup
  known : ∀ key ∈ Keyed.keys stored, key ∈ knownKeys

theorem isKnown_nil : IsKnown [] where
  distinct := List.nodup_nil
  known := List.forall_mem_nil _

theorem keys_entries_sublist (p : Preferences) :
    (Keyed.keys p.entries).Sublist knownKeys := by
  rcases p with ⟨_ | url, _ | project⟩
  · exact List.nil_sublist _
  · exact List.sublist_cons_self _ _
  · exact List.Sublist.cons_cons _ (List.nil_sublist _)
  · exact List.Sublist.refl _

theorem isKnown_entries (p : Preferences) :
    IsKnown p.entries := by
  have hKeys := keys_entries_sublist p
  have hDistinct : knownKeys.Nodup := by decide
  constructor
  · exact hDistinct.sublist hKeys
  · intro key hKey
    exact hKeys.subset hKey

theorem IsKnown.put
    {stored : Stored}
    (hStored : stored.IsKnown)
    {key : String}
    (hKnown : key ∈ knownKeys)
    (value : String) :
    IsKnown (Keyed.put stored key value) := by
  constructor
  · exact Keyed.nodup_keys_put hStored.distinct key value
  · intro other hOther
    rcases Keyed.mem_keys_put_iff.mp hOther with
      rfl | hBefore
    · exact hKnown
    · exact hStored.known other hBefore

/- A document of texts under known keys is read back. -/
theorem IsKnown.isExact_toJson
    {stored : Stored}
    (hStored : stored.IsKnown) :
    stored.toJson.IsExact := by
  apply Json.isExact_object (Keyed.keys stored)
  · rw [Keyed.keys, Keyed.keys, List.map_map]
    rfl
  · exact hStored.distinct
  · intro key hKey
    exact index?_of_known (hStored.known key hKey)
  · intro entry hEntry
    rcases List.mem_map.mp hEntry with ⟨first, -, rfl⟩
    trivial

/- The entries of a value are those of a record. -/
theorem ofJson_eq_entries (value : Json) :
    ofJson value =
      Preferences.entries
        { serverUrl :=
            (value.member? serverUrlKey).bind Json.text?
          project :=
            (value.member? projectKey).bind Json.text? } := by
  simp only [ofJson, known?, Preferences.entries,
    List.filterMap_cons, List.filterMap_nil]
  cases (value.member? serverUrlKey).bind Json.text? <;>
  · cases (value.member? projectKey).bind Json.text? <;> rfl

/- Of a document the entries are found that it was made of. -/
theorem ofJson_toJson (stored : Stored) :
    ofJson stored.toJson =
      (Preferences.ofStored stored).entries := by
  have hFound (key : String) :
      (stored.toJson.member? key).bind Json.text? =
        Keyed.get? key stored := by
    rw [toJson, Json.member?, Keyed.get?_map]
    cases Keyed.get? key stored with
    | none => rfl
    | some value => rfl
  rw [ofJson_eq_entries, hFound, hFound]
  rfl

/- What any file stores is a record. -/
theorem exists_ofFile_eq_entries (file : Option StoredFile) :
    ∃ p : Preferences, ofFile file = p.entries := by
  cases file with
  | none => exact ⟨{}, rfl⟩
  | some file =>
      rw [ofFile]
      cases Json.parse? file.text with
      | none => exact ⟨{}, rfl⟩
      | some value => exact ⟨_, ofJson_eq_entries value⟩

end Stored

------------------------------------------------------------
-- Configurations
------------------------------------------------------------

namespace Config

variable {config : Config}
variable {p : Preferences}

------------------------------------------------------------
-- Choices
------------------------------------------------------------

theorem serverUrl_eq (config : Config) :
    config.serverUrl =
      firstGiven
        (Keyed.get? "MINDSDB_URL" config.environment)
        (Keyed.get? Stored.serverUrlKey config.stored)
        "http://127.0.0.1:47334" := by
  unfold serverUrl firstGiven stored? Environment.value?
  cases given?
      (Keyed.get? "MINDSDB_URL" config.environment) with
  | some url => rfl
  | none =>
      cases given?
          (Keyed.get? Stored.serverUrlKey config.stored) <;>
      rfl

theorem serverUrlSource_eq (config : Config) :
    config.serverUrlSource =
      sourceOfFirst
        (Keyed.get? "MINDSDB_URL" config.environment)
        (Keyed.get? Stored.serverUrlKey config.stored) := by
  unfold serverUrlSource sourceOfFirst stored?
    Environment.value?
  cases given?
      (Keyed.get? "MINDSDB_URL" config.environment) with
  | some url => rfl
  | none =>
      cases given?
          (Keyed.get? Stored.serverUrlKey config.stored) <;>
      rfl

theorem project_eq (config : Config) :
    config.project =
      firstGiven
        (Keyed.get? "MINDSDB_PROJECT" config.environment)
        (Keyed.get? Stored.projectKey config.stored)
        "mindsdb" := by
  unfold project firstGiven stored? Environment.value?
  cases given?
      (Keyed.get? "MINDSDB_PROJECT" config.environment) with
  | some project => rfl
  | none =>
      cases given?
          (Keyed.get? Stored.projectKey config.stored) <;>
      rfl

/-
  What a configuration holds: its file is read as a record,
  and in every environment a setting is that of the
  environment, of the record, or the default.
-/
structure Holds (config : Config) (p : Preferences) : Prop where
  stored : config.stored = p.entries
  serverUrl :
    ∀ environment : Environment,
      ({ config with environment } : Config).serverUrl =
        firstGiven (Keyed.get? "MINDSDB_URL" environment)
          p.serverUrl "http://127.0.0.1:47334"
  serverUrlSource :
    ∀ environment : Environment,
      ({ config with environment } : Config).serverUrlSource =
        sourceOfFirst (Keyed.get? "MINDSDB_URL" environment)
          p.serverUrl
  project :
    ∀ environment : Environment,
      ({ config with environment } : Config).project =
        firstGiven (Keyed.get? "MINDSDB_PROJECT" environment)
          p.project "mindsdb"

/- What is stored settles all that a configuration holds. -/
theorem holds_of_stored
    (hStored : config.stored = p.entries) :
    config.Holds p := by
  have hFields :
      Preferences.ofStored config.stored = p := by
    rw [hStored, Preferences.ofStored_entries]
  subst hFields
  constructor
  · exact hStored
  · intro environment
    exact serverUrl_eq { config with environment }
  · intro environment
    exact serverUrlSource_eq { config with environment }
  · intro environment
    exact project_eq { config with environment }

------------------------------------------------------------
-- Changes
------------------------------------------------------------

/- Entries that are saved are read back. -/
theorem stored_save
    {stored : Stored}
    (hStored : stored.IsKnown) :
    (config.save stored).stored =
      (Preferences.ofStored stored).entries := by
  have hRead :
      Json.parse? stored.toJson.printIndented =
        some stored.toJson :=
    Json.parse?_printIndented hStored.isExact_toJson
  change Stored.ofFile (some (StoredFile.write _ _)) = _
  rw [Stored.ofFile, StoredFile.write, hRead]
  exact Stored.ofJson_toJson stored

/- An entry is stored beside those that were there. -/
theorem stored_set
    (hHolds : config.Holds p)
    {key : String}
    (hKnown : key ∈ Stored.knownKeys)
    (value : String) :
    (config.set key value).stored =
      (Preferences.ofStored
        (Keyed.put p.entries key value)).entries := by
  rw [set, hHolds.stored]
  exact stored_save ((Stored.isKnown_entries p).put hKnown _)

/-
  Neither setter touches the field of the other: the key of
  one is not the key of the other.
-/
theorem ofStored_put_serverUrl
    (p : Preferences)
    (url : String) :
    Preferences.ofStored
        (Keyed.put p.entries Stored.serverUrlKey url) =
      { p with serverUrl := some url } := by
  have hOther : Stored.serverUrlKey ≠ Stored.projectKey := by
    decide
  rw [Preferences.ofStored, Keyed.get?_put, Keyed.get?_put,
    if_pos rfl, if_neg hOther]
  exact congrArg
    (fun before : Preferences =>
      { before with serverUrl := some url })
    p.ofStored_entries

theorem ofStored_put_project
    (p : Preferences)
    (name : String) :
    Preferences.ofStored
        (Keyed.put p.entries Stored.projectKey name) =
      { p with project := some name } := by
  have hOther : Stored.projectKey ≠ Stored.serverUrlKey := by
    decide
  rw [Preferences.ofStored, Keyed.get?_put, Keyed.get?_put,
    if_pos rfl, if_neg hOther]
  exact congrArg
    (fun before : Preferences =>
      { before with project := some name })
    p.ofStored_entries

/- One change of the file is one change of the record. -/
theorem holds_perform
    (hHolds : config.Holds p)
    (change : Change) :
    (change.perform config).Holds (change.apply p) := by
  apply holds_of_stored
  cases change with
  | serverUrl url =>
      rw [Change.apply, ← ofStored_put_serverUrl]
      exact stored_set hHolds List.mem_cons_self url
  | project name =>
      rw [Change.apply, ← ofStored_put_project]
      exact stored_set hHolds
        (List.mem_cons_of_mem _ List.mem_cons_self) name
  | clear => exact stored_save Stored.isKnown_nil

/- Changes that follow one another, by their number. -/
theorem Holds.foldl_perform
    (hHolds : config.Holds p)
    (changes : List Change) :
    (changes.foldl Change.perform config).Holds
      (changes.foldl Change.apply p) := by
  induction changes generalizing config p with
  | nil => exact hHolds
  | cons change changes ih =>
      exact ih (holds_perform hHolds change)

/- Whatever a file is, it is read as a record. -/
theorem holds_initially (config : Config) :
    config.Holds (Preferences.ofStored config.stored) := by
  rcases Stored.exists_ofFile_eq_entries config.file with
    ⟨p, hFile⟩
  have hStored : config.stored = p.entries := hFile
  rw [hStored, Preferences.ofStored_entries]
  exact holds_of_stored hStored

/-
  After any changes of any file, the file is read as the
  record that these changes make of the record which was
  read before them.
-/
theorem holds_run
    (config : Config)
    (changes : List Change) :
    (changes.foldl Change.perform config).Holds
      (changes.foldl Change.apply
        (Preferences.ofStored config.stored)) :=
  (holds_initially config).foldl_perform changes

end Config

end KbConsole

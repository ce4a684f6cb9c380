import Faultline.Proofs.Settings.Sources
import Faultline.Proofs.Settings.Stack

/-!
Loading the settings. Main statement: each setting is the one that the last variable for it says,
else what the file says, else the default; anything unknown in the file or a variable is refused;
and a file that is missing is told whatever the variables are.
-/

namespace Faultline

/-- The layer that a reader gives of a file; without a file nothing is given. -/
inductive SettingsFile.Holds (read : SettingsFile.Reader) : SettingsFile → Setting → Prop where
  | absent : Holds read .absent (.table [])
  | found {path text : String} {layer : Setting} (given : read text = some layer) :
    Holds read (.found path text) layer

namespace Settings
open Setting Layers Variables

variable {read : SettingsFile.Reader} {file : SettingsFile} {layer : Setting}
  {given : List (String × String)}

theorem isName_schema : ∀ part ∈ schema, isName part.1.toList = true ∧
    ∀ leaf ∈ part.2, isName leaf.1.toList = true := by decide +kernel

theorem path?_of_setting : ∀ part ∈ schema, ∀ leaf ∈ part.2, ∀ name,
    Text.SameUpToCase name (namePrefix ++ part.1 ++ "__" ++ leaf.1) →
      path? name = some [part.1, leaf.1] :=
  fun part listed leaf typeOf _ =>
    path?_of_names (isName_schema part listed).1 ((isName_schema part listed).2 leaf typeOf)

theorem layered_of_holds (tidy : read.IsTidy) (holds : file.Holds read layer)
    (tables : ∀ one ∈ layer :: parts given, GivesTables one) : Layered layer (parts given) := by
  have held : (∃ members, layer = .table members) ∧ Tidy (fun _ => True) layer := by
    cases holds with
    | absent => exact ⟨⟨[], rfl⟩, .empty⟩
    | found given => exact tidy _ _ given
  rw [List.forall_mem_cons] at tables
  exact ⟨held.2, ⟨held.1, tables.1⟩, fun one inside => (tidy_of_mem_parts inside).2,
    fun one inside => ⟨(tidy_of_mem_parts inside).1, tables.2 one inside⟩⟩

theorem value_load (read : SettingsFile.Reader) (file : SettingsFile)
    (given : List (String × String)) (supply : Supply) :
    ((load read file given).run supply).value = loadWith read file given [] := by
  unfold load
  cases loadWith read file given [] <;> rfl

theorem ofLayers_tables {layers : List Setting}
    (tables : ∀ layer ∈ layers, ∃ members, layer = .table members) :
    ofLayers (layers.map some) = (decode .layers (sorted (merged layers))).mapError
      fun refusal => .invalid [.refused refusal] := by
  have clean : (layers.map some).filterMap layerError? = [] := by
    rw [List.filterMap_map, List.filterMap_eq_nil_iff]
    intro layer inside
    obtain ⟨members, rfl⟩ := tables layer inside
    rfl
  have all : (layers.map some).filterMap id = layers := by
    rw [List.filterMap_map]
    exact List.filterMap_some
  rw [ofLayers, clean, all]

theorem loadWith_eq (holds : file.Holds read layer) (layered : Layered layer (parts given)) :
    loadWith read file given [] = (decode .layers (sorted (stack layer (parts given)))).mapError
      fun refusal => .invalid [.refused refusal] := by
  have tables : ∀ one ∈ [defaults, layer, merged (parts given)],
      ∃ members, one = .table members :=
    fun one inside => (layered.sectioned_layers one inside).table
  cases holds with
  | absent =>
    -- an empty layer over the defaults changes nothing
    have same : stack (.table []) (parts given) = merged [defaults, merged (parts given)] := rfl
    rw [same, ← ofLayers_tables fun one inside => tables one ?_]
    · rfl
    · exact (List.Sublist.cons_cons _ (List.sublist_cons_self _ _)).subset inside
  | found given =>
    rw [stack, ← ofLayers_tables tables]
    simp only [loadWith, layersOf, SettingsFile.layers, given]
    rfl

theorem exists_table_parts (given : List (String × String)) :
    ∃ members, merged (parts given) = .table members := by
  have opens : ∀ part ∈ parts given, IsOpen part [""] := by
    intro part member
    obtain ⟨members, rfl⟩ := (tidy_of_mem_parts member).1
    exact ⟨members, rfl, fun _ _ => trivial⟩
  obtain ⟨members, table, -⟩ :=
    isOpen_merged (fun part member => (tidy_of_mem_parts member).2) opens
  exact ⟨members, table⟩

theorem loadWith_of_unreadable {path text : String} (unreadable : read text = none) :
    loadWith read (.found path text) given [] = .error (.invalid [.unreadable]) := by
  obtain ⟨members, table⟩ := exists_table_parts given
  have layers : layersOf read (.found path text) given =
      .ok [some defaults, none, some (.table members)] := by
    simp only [layersOf, SettingsFile.layers, unreadable]
    rw [← table]
    rfl
  simp only [loadWith, layers]
  rfl

/-- The variable for a setting is known by its name. With known settings only, each with values of
its type, loading succeeds, and each setting is what its last variable says, else what the file
says, else its default; with anything unknown in the file or a variable, or a file that cannot be
read, loading fails; and if the file is missing, it fails for that, whatever the variables are. -/
theorem load_decides (read : SettingsFile.Reader) (tidy : read.IsTidy) :
    (∀ part ∈ schema, ∀ leaf ∈ part.2, ∀ name,
      Text.SameUpToCase name (namePrefix ++ part.1 ++ "__" ++ leaf.1) →
        path? name = some [part.1, leaf.1]) ∧
    (∀ (file : SettingsFile) (layer : Setting) (given : List (String × String)) (supply : Supply),
      file.Holds read layer → (∀ one ∈ layer :: parts given, GivesTables one) →
      ((∀ one ∈ layer :: parts given, Known one ∧ WellTyped one) →
        ∃ settings, ((load read file given).run supply).value = .ok settings ∧
          ∀ part ∈ schema, ∀ leaf ∈ part.2, ∃ json,
            Json.at? (encode settings) [part.1, leaf.1] = some json ∧
              Decides layer (parts given) [part.1, leaf.1] leaf.2 json) ∧
      ((∃ one ∈ layer :: parts given, ¬Known one) →
        ∃ errors, ((load read file given).run supply).value = .error (.invalid errors))) ∧
    (∀ (path text : String) (given : List (String × String)) (supply : Supply), read text = none →
      ((load read (.found path text) given).run supply).value = .error (.invalid [.unreadable])) ∧
    ∀ (path : String) (given : List (String × String)) (supply : Supply),
      ((load read (.missing path) given).run supply).value = .error (.missingFile path) := by
  refine ⟨path?_of_setting, fun file layer given supply holds tables => ?_,
    fun path text given supply unreadable => ?_, fun _ _ _ => rfl⟩
  swap
  · rw [value_load, loadWith_of_unreadable unreadable]
  -- from here on all layers are tables of tables without repeated names
  have layered := layered_of_holds tidy holds tables
  rw [value_load, loadWith_eq holds layered]
  constructor
  · intro fits
    obtain ⟨settings, read, shown⟩ := layered.decode_reads (fun one inside => (fits one inside).1)
      (fun one inside => (fits one inside).2)
    exact ⟨settings, by rw [read]; rfl, shown⟩
  · rintro ⟨one, inside, unknown⟩
    obtain ⟨refusal, refused⟩ :=
      layered.decode_refuses fun known => unknown (known one inside)
    exact ⟨_, by rw [refused]; rfl⟩

theorem load_decides_warn :
    let given := [("Problemkit__Logging__LEVEL", "warn")]
    let supply : Supply := fun _ => ⟨.replicate 32 5⟩
    path? "Problemkit__Logging__LEVEL" = some ["logging", "level"] ∧
    (∃ settings, ((load Yaml.read? (.found "app.yaml" "logging:\n  level: trace\n  ansi: true\n")
        given).run supply).value = .ok settings ∧
      Json.at? (encode settings) ["logging", "level"] = some (.string "warn") ∧
      Json.at? (encode settings) ["logging", "ansi"] = some (.bool true) ∧
      Json.at? (encode settings) ["environment", "name"] = some (.string "production")) ∧
    (∃ errors, ((load Yaml.read? (.found "app.yaml" "logging:\n  colour: true\n") given).run
      supply).value = .error (.invalid errors)) ∧
    ((load Yaml.read? (.missing "app.yaml") given).run supply).value =
      .error (.missingFile "app.yaml") := by
  intro given supply
  obtain ⟨named, loaded, -, missing⟩ := load_decides Yaml.read? Yaml.isTidy_read?
  have logging : ("logging", loggingLeaves) ∈ schema := List.mem_of_getLast? rfl
  have level : ("level", .text) ∈ loggingLeaves := List.mem_cons_self
  have ansi : ("ansi", .flag) ∈ loggingLeaves := by simp [loggingLeaves]
  have above : parts given = [.table [("logging", .table [("level", .text "warn")])]] := by
    decide +kernel
  refine ⟨named _ logging _ level _ (Text.sameIgnoringCase_iff.1 (by decide +kernel)), ?loads,
    ?refuses, missing _ _ _⟩
  case loads =>
    have found : SettingsFile.Holds Yaml.read?
        (.found "app.yaml" "logging:\n  level: trace\n  ansi: true\n")
        (.table [("logging", .table [("level", .text "trace"), ("ansi", .flag true)])]) :=
      .found (by decide +kernel)
    have below := @fits_singleton _ logging [("level", .text "trace"), ("ansi", .flag true)] <| by
      simp only [List.forall_mem_cons]
      exact ⟨⟨_, .text, level, .text (.text _)⟩, ⟨_, .flag, ansi, .flag true⟩,
        List.forall_mem_nil _⟩
    have upper := @fits_singleton _ logging [("level", .text "warn")] <|
      List.forall_mem_singleton.2 ⟨_, .text, level, .text (.text _)⟩
    have outcome := loaded _ _ given supply found
    rw [above] at outcome
    obtain ⟨settings, loads, leaves⟩ :=
      (outcome (by simp [(sectioned_singleton _ _).sections])).1 (by simp [below, upper])
    refine ⟨settings, loads, ?_, ?_, ?_⟩
    · obtain ⟨json, shown, decides⟩ := leaves _ logging _ level
      cases decides with
      | ofVariable last meant =>
        cases last
        exact meant.unique (.text (.text _)) ▸ shown
      | ofFile unset => cases unset _ List.mem_cons_self
      | ofDefault unset => cases unset _ List.mem_cons_self
    · obtain ⟨json, shown, decides⟩ := leaves _ logging _ ansi
      cases decides with
      | ofVariable last => cases last
      | ofFile _ held meant =>
        cases held
        exact meant.unique (.flag true) ▸ shown
      | ofDefault _ absent => cases absent
    · obtain ⟨json, shown, decides⟩ :=
        leaves ("environment", environmentLeaves) List.mem_cons_self ("name", .text)
          List.mem_cons_self
      cases decides with
      | ofVariable last => cases last
      | ofFile _ held => cases held
      | ofDefault _ _ held => exact shown.trans held.symm
  case refuses =>
    have found : SettingsFile.Holds Yaml.read? (.found "app.yaml" "logging:\n  colour: true\n")
        (.table [("logging", .table [("colour", .flag true)])]) := .found (by decide +kernel)
    have outcome := loaded _ _ given supply found
    rw [above] at outcome
    refine (outcome (by simp [(sectioned_singleton _ _).sections])).2
      ⟨_, List.mem_cons_self, fun known => ?_⟩
    have listed : "colour" ∈ loggingLeaves.map Prod.fst :=
      known.leaves _ logging "colour" (Option.some_ne_none (Setting.flag true))
    revert listed
    decide

end Settings
end Faultline

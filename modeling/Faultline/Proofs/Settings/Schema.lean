import Mathlib.Data.List.Forall2
import Faultline.Proofs.Settings.Layers
import Faultline.Proofs.Settings.Records

/-!
The settings there are, by section and name, with the values each of them may have and the JSON that
these stand for. Main statements: a section with such values is read, and has them all; and one with
a member of another name is refused.
-/

namespace Faultline

namespace Json

def members : Json → List (String × Json)
  | .object members => members
  | _ => []

def at? : Json → List String → Option Json
  | value, [] => some value
  | value, name :: path => (find? value.members name).bind (at? · path)

end Json

namespace Settings
open Setting

inductive LeafType where
  | text
  | flag
  | count
  | texts
  | choice (names : List String)
  deriving DecidableEq, Repr

/-- A text may be a single character. -/
inductive IsText : Setting → String → Prop where
  | text (s : String) : IsText (.text s) s
  | character (c : Char) : IsText (.character c) (.ofList [c])

/-- The values of a type, each with the JSON it stands for. -/
inductive LeafType.Admits : LeafType → Setting → Json → Prop where
  | text {value : Setting} {s : String} (spelled : IsText value s) : Admits .text value (.string s)
  | flag (b : Bool) : Admits .flag (.flag b) (.bool b)
  | count {form : IntegerForm} {n : Nat} (narrow : form ≠ .wide) (small : n < Nat.pow 2 64) :
    Admits .count (.integer form n) (.integer n)
  | texts {items : List Setting} {strings : List String}
    (spelled : List.Forall₂ IsText items strings) :
    Admits .texts (.list items) (encodeTexts strings)
  | named {names : List String} {name : String} (known : name ∈ names) :
    Admits (.choice names) (.text name) (.string name)
  | tagged {names : List String} {name : String} (known : name ∈ names) :
    Admits (.choice names) (.table [(name, .empty)]) (.string name)

def environmentLeaves : List (String × LeafType) :=
  [("name", .text), ("developer_environments", .texts)]

def sanitizerLeaves : List (String × LeafType) :=
  [("redacted_detail", .text), ("include_stack_trace_in_development", .flag),
    ("augment_detail_in_development", .flag), ("safe_kinds", .texts)]

def limitsLeaves : List (String × LeafType) :=
  [("max_extensions", .count), ("max_string_length", .count), ("max_depth", .count)]

def telemetryLeaves : List (String × LeafType) :=
  [("enabled", .flag), ("disclosure", .choice ["match_response", "operator"])]

def loggingLeaves : List (String × LeafType) :=
  [("level", .text), ("format", .choice ["compact", "pretty", "json"]), ("ansi", .flag),
    ("with_target", .flag)]

/-- The sections of the settings, and the type of each setting in them. -/
def schema : List (String × List (String × LeafType)) :=
  [("environment", environmentLeaves), ("sanitizer", sanitizerLeaves),
    ("extensions", limitsLeaves), ("telemetry", telemetryLeaves), ("logging", loggingLeaves)]

theorem IsText.sorted {value : Setting} {s : String} (spelled : IsText value s) :
    IsText (Layers.sorted value) s := by
  cases spelled with
  | text => exact .text s
  | character c => exact .character c

theorem IsText.sortedItems {items : List Setting} {strings : List String}
    (spelled : List.Forall₂ IsText items strings) :
    List.Forall₂ IsText (Layers.sortedItems items) strings := by
  induction spelled with
  | nil => exact .nil
  | cons first _ ih => exact .cons first.sorted ih

theorem LeafType.Admits.sorted {type : LeafType} {value : Setting} {json : Json}
    (admits : type.Admits value json) : type.Admits (Layers.sorted value) json := by
  cases admits with
  | text spelled => exact .text spelled.sorted
  | flag b => exact .flag b
  | count narrow small => exact .count narrow small
  | texts spelled => exact .texts (IsText.sortedItems spelled)
  | named known => exact .named known
  | tagged known => exact .tagged known

theorem IsText.unique {value : Setting} {s t : String} (first : IsText value s)
    (second : IsText value t) : s = t := by
  cases first with
  | text => cases second; rfl
  | character => cases second; rfl

theorem LeafType.Admits.unique {type : LeafType} {value : Setting} {json other : Json}
    (first : type.Admits value json) (second : type.Admits value other) : json = other := by
  cases first with
  | text first =>
    cases second with
    | text second => rw [first.unique second]
  | texts first =>
    cases second with
    | texts second =>
      have unique : Relator.RightUnique IsText := fun _ _ _ => IsText.unique
      rw [List.right_unique_forall₂' unique first second]
  | _ => cases second; rfl

theorem LeafType.Admits.ne_object {type : LeafType} {value : Setting} {json : Json}
    (admits : type.Admits value json) (members : List (String × Json)) :
    json ≠ .object members := by
  cases admits <;> nofun

section Decoders

variable {value : Setting} {json : Json}

theorem text_of_isText {s : String} (spelled : IsText value s) : text value = .ok s := by
  cases spelled <;> rfl

theorem text_of_admits (admits : LeafType.text.Admits value json) :
    ∃ s, text value = .ok s ∧ .string s = json := by
  cases admits with
  | text spelled => exact ⟨_, text_of_isText spelled, rfl⟩

theorem flag_of_admits (admits : LeafType.flag.Admits value json) :
    ∃ b, flag value = .ok b ∧ .bool b = json := by
  cases admits with
  | flag b => exact ⟨b, rfl, rfl⟩

theorem count_of_admits (admits : LeafType.count.Admits value json) :
    ∃ n, count value = .ok n ∧ .integer (n : Int) = json := by
  cases admits with
  | @count form n narrow small =>
    refine ⟨n, ?_, rfl⟩
    have fits : 0 ≤ (n : Int) ∧ (n : Int) < Nat.pow 2 64 :=
      ⟨Int.natCast_nonneg n, Int.ofNat_lt.2 small⟩
    rw [Settings.count, if_pos fits, Int.toNat_natCast]
    exact fun wide => absurd wide narrow

theorem itemsFrom_of_isText {items : List Setting} {strings : List String}
    (spelled : List.Forall₂ IsText items strings) (position : Nat) :
    itemsFrom text position items = .ok strings := by
  induction spelled generalizing position with
  | nil => rfl
  | cons first _ ih =>
    rw [itemsFrom, text_of_isText first, ih]
    rfl

theorem texts_of_admits (admits : LeafType.texts.Admits value json) :
    ∃ strings, texts value = .ok strings ∧ encodeTexts strings = json := by
  cases admits with
  | texts spelled => exact ⟨_, itemsFrom_of_isText spelled 0, rfl⟩

theorem choice_of_admits {α : Type} {variants : List (String × α)} {encode : α → Json}
    {names : List String} (written : ∀ name ∈ names, ∃ variant,
      variants.lookup name = some variant ∧ encode variant = .string name) (type : String)
    (admits : (LeafType.choice names).Admits value json) :
    ∃ variant, choice .layers type variants value = .ok variant ∧ encode variant = json := by
  cases admits with
  | named known =>
    obtain ⟨variant, found, encoded⟩ := written _ known
    refine ⟨variant, ?_, encoded⟩
    rw [choice, choice.pick, found]
  | tagged known =>
    obtain ⟨variant, found, encoded⟩ := written _ known
    refine ⟨variant, ?_, encoded⟩
    simp only [choice, choice.pickWith, choice.pick, found]
    rfl

end Decoders

def Means (leaves : List (String × LeafType)) (name : String) (value : Setting) (json : Json) :
    Prop :=
  ∃ type, (name, type) ∈ leaves ∧ type.Admits value json

def Shows (leaves : List (String × LeafType)) (members : List (String × Setting)) (json : Json) :
    Prop :=
  ∀ member ∈ members, ∃ inner, Means leaves member.1 member.2 inner ∧
    Json.find? json.members member.1 = some inner

/-- The decoder reads all tables with values that the settings may have, and no table with a member
of another name. -/
structure Follows {α : Type} (decode : Decoder α) (encode : α → Json)
    (leaves : List (String × LeafType)) : Prop where
  reads {members : List (String × Setting)} (distinct : (members.map Prod.fst).Nodup)
    (fits : ∀ member ∈ members, ∃ json, Means leaves member.1 member.2 json) :
    ∃ record, decode (.table members) = .ok record ∧ Shows leaves members (encode record)
  refuses {members : List (String × Setting)} {member : String × Setting}
    (inside : member ∈ members) (unknown : member.1 ∉ leaves.map Prod.fst) :
    ∃ refusal, decode (.table members) = .error refusal

theorem follows_record {α : Type} {fields : List (Field α)} {encode : α → Json}
    {leaves : List (String × LeafType)} (source : SettingsSource) (type : String) (initial : α)
    (names : fields.map Field.name = leaves.map Prod.fst)
    (each : ∀ leaf ∈ leaves, ∀ value json, leaf.2.Admits value json →
      Reads fields (Json.members ∘ encode) leaf.1 value json) :
    Follows (record source type fields initial) encode leaves where
  reads {members} distinct fits := by
    have reads : ∀ member ∈ members, ∃ json, Means leaves member.1 member.2 json ∧
        Reads fields (Json.members ∘ encode) member.1 member.2 json := by
      intro member inside
      obtain ⟨json, type, leaf, admits⟩ := fits member inside
      exact ⟨json, ⟨type, leaf, admits⟩, each _ leaf _ _ admits⟩
    obtain ⟨record, read, shown, -⟩ := assignMembers_reads distinct reads initial
    exact ⟨record, read, shown⟩
  refuses inside unknown :=
    assignMembers_refuses inside (refuses_unknown (names ▸ unknown)) initial

theorem follows_environment :
    Follows (decodeEnvironment .layers) encodeEnvironment environmentLeaves := by
  refine follows_record _ _ _ rfl ?_
  simp only [environmentLeaves, List.forall_mem_cons]
  refine ⟨fun _ _ admits => ?_, fun _ _ admits => ?_, List.forall_mem_nil _⟩
  · exact reads_field rfl (fun _ _ => rfl) (text_of_admits admits)
  · exact reads_field rfl (fun _ _ => rfl) (texts_of_admits admits)

theorem follows_sanitizer : Follows (decodeSanitizer .layers) encodeSanitizer sanitizerLeaves := by
  refine follows_record _ _ _ rfl ?_
  simp only [sanitizerLeaves, List.forall_mem_cons]
  refine ⟨fun _ _ admits => ?_, fun _ _ admits => ?_, fun _ _ admits => ?_,
    fun _ _ admits => ?_, List.forall_mem_nil _⟩
  · exact reads_field rfl (fun _ _ => rfl) (text_of_admits admits)
  · exact reads_field rfl (fun _ _ => rfl) (flag_of_admits admits)
  · exact reads_field rfl (fun _ _ => rfl) (flag_of_admits admits)
  · exact reads_field rfl (fun _ _ => rfl) (texts_of_admits admits)

theorem follows_limits : Follows (decodeLimits .layers) encodeLimits limitsLeaves := by
  refine follows_record _ _ _ rfl ?_
  simp only [limitsLeaves, List.forall_mem_cons]
  refine ⟨fun _ _ admits => ?_, fun _ _ admits => ?_, fun _ _ admits => ?_,
    List.forall_mem_nil _⟩
  · exact reads_field rfl (fun _ _ => rfl) (count_of_admits admits)
  · exact reads_field rfl (fun _ _ => rfl) (count_of_admits admits)
  · exact reads_field rfl (fun _ _ => rfl) (count_of_admits admits)

theorem follows_telemetry : Follows (decodeTelemetry .layers) encodeTelemetry telemetryLeaves := by
  have written : ∀ name ∈ ["match_response", "operator"], ∃ mode,
      disclosureModes.lookup name = some mode ∧ encodeMode mode = .string name := by
    simp only [List.forall_mem_cons]
    exact ⟨⟨_, rfl, rfl⟩, ⟨_, rfl, rfl⟩, List.forall_mem_nil _⟩
  refine follows_record _ _ _ rfl ?_
  simp only [telemetryLeaves, List.forall_mem_cons]
  refine ⟨fun _ _ admits => ?_, fun _ _ admits => ?_, List.forall_mem_nil _⟩
  · exact reads_field rfl (fun _ _ => rfl) (flag_of_admits admits)
  · exact reads_field rfl (fun _ _ => rfl) (choice_of_admits written _ admits)

theorem follows_logging : Follows (decodeLogging .layers) encodeLogging loggingLeaves := by
  have written : ∀ name ∈ ["compact", "pretty", "json"], ∃ format,
      logFormats.lookup name = some format ∧ encodeFormat format = .string name := by
    simp only [List.forall_mem_cons]
    exact ⟨⟨_, rfl, rfl⟩, ⟨_, rfl, rfl⟩, ⟨_, rfl, rfl⟩, List.forall_mem_nil _⟩
  refine follows_record _ _ _ rfl ?_
  simp only [loggingLeaves, List.forall_mem_cons]
  refine ⟨fun _ _ admits => ?_, fun _ _ admits => ?_, fun _ _ admits => ?_,
    fun _ _ admits => ?_, List.forall_mem_nil _⟩
  · exact reads_field rfl (fun _ _ => rfl) (text_of_admits admits)
  · exact reads_field rfl (fun _ _ => rfl) (choice_of_admits written _ admits)
  · exact reads_field rfl (fun _ _ => rfl) (flag_of_admits admits)
  · exact reads_field rfl (fun _ _ => rfl) (flag_of_admits admits)

def HoldsSection (fields : List (Field Settings)) (name : String)
    (leaves : List (String × LeafType)) : Prop :=
  ∃ (α : Type) (decode : Decoder α) (encode : α → Json) (set : Settings → α → Settings),
    fields.find? (·.name == name) = some (field name decode set) ∧
    (∀ settings part, (Settings.encode (set settings part)).members =
      Json.upsert name (encode part) (Settings.encode settings).members) ∧
    Follows decode encode leaves

theorem exists_sections : ∃ fields, decode .layers =
      record .layers "ErrorHandlingConfig" fields .default ∧
    fields.map Field.name = schema.map Prod.fst ∧
    ∀ part ∈ schema, HoldsSection fields part.1 part.2 := by
  refine ⟨_, rfl, rfl, ?_⟩
  simp only [schema, List.forall_mem_cons]
  refine ⟨?_, ?_, ?_, ?_, ?_, List.forall_mem_nil _⟩
  · exact ⟨_, _, _, _, rfl, fun _ _ => rfl, follows_environment⟩
  · exact ⟨_, _, _, _, rfl, fun _ _ => rfl, follows_sanitizer⟩
  · exact ⟨_, _, _, _, rfl, fun _ _ => rfl, follows_limits⟩
  · exact ⟨_, _, _, _, rfl, fun _ _ => rfl, follows_telemetry⟩
  · exact ⟨_, _, _, _, rfl, fun _ _ => rfl, follows_logging⟩

end Settings
end Faultline

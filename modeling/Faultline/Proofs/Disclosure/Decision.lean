import Faultline.Proofs.Mapper.BuiltIn
import Faultline.Proofs.Text.Matching
import Faultline.Proofs.Text.Trim

/-!
The decision on what may be told of a fault. Main statement: the conditions under which its details
are told, and the text that is sent in each case.
-/

namespace Faultline

def EnvironmentSettings.IsDeveloper (settings : EnvironmentSettings) : Prop :=
  ∃ name ∈ settings.developerEnvironments, Text.SameUpToCase name settings.name

def SanitizerSettings.IsSafe (settings : SanitizerSettings) (kind : String) : Prop :=
  ∃ safe ∈ settings.safeKinds, Text.SameUpToCase safe kind

theorem Environment.developer_ofSettings {settings : EnvironmentSettings} :
    (ofSettings settings).developer = true ↔ settings.IsDeveloper := by
  unfold ofSettings EnvironmentSettings.IsDeveloper
  simp only [List.any_eq_true, Text.sameIgnoringCase_iff]

/-- The message that is told of a fault. A blank one has a stand-in. -/
inductive Fault.Tells (fault : Fault) : String → Prop where
  | own (present : Text.isBlank fault.display = false) : Tells fault fault.display
  | standIn (blank : Text.isBlank fault.display = true) : Tells fault "An error was raised."

namespace Sanitizer

def Prefers (preferred : Option String) (text : String) : Prop :=
  preferred = some text ∧ Text.isBlank text = false

theorem nonBlank_eq_none_iff {preferred : Option String} :
    Text.nonBlank preferred = none ↔ ∀ text, ¬Prefers preferred text := by
  rw [Option.eq_none_iff_forall_ne_some]
  exact forall_congr' fun text => not_congr Text.nonBlank_eq_some_iff

theorem messageOf_eq_iff {fault : Fault} {message : String} :
    messageOf fault = message ↔ fault.Tells message := by
  unfold messageOf
  constructor
  · rintro rfl
    split
    next blank => exact .standIn blank
    next present => exact .own (Bool.eq_false_iff.2 present)
  · intro tells
    cases tells with
    | own present => exact if_neg (Bool.eq_false_iff.1 present)
    | standIn blank => exact if_pos blank

def ofSettings (settings : SanitizerSettings) (environment : EnvironmentSettings)
    (predicate : Option (Fault → Bool)) : Sanitizer :=
  ⟨settings, .ofSettings environment, predicate⟩

variable (settings : SanitizerSettings) (environment : EnvironmentSettings)
  (predicate : Option (Fault → Bool)) (fault : Fault) (preferred : Option String)
  (sensitive : Bool) (made : Sanitization)

inductive Discloses : Prop where
  | developer (isDeveloper : environment.IsDeveloper)
  | safe (isSafe : settings.IsSafe fault.kindName)
  | allowed {accepts : Fault → Bool} (given : predicate = some accepts)
    (accepted : accepts fault = true)

def Augments : Prop :=
  environment.IsDeveloper ∧ settings.augmentDetailInDevelopment = true

/-- The detail is one text as it is: the preferred one, the message, or the redacted text. -/
structure Verbatim : Prop where
  given : ∀ text, Prefers preferred text → sensitive = false ∨ made.isRedacted = false →
    made.detail = text
  message : (∀ text, ¬Prefers preferred text) → made.isRedacted = false →
    ∀ message, fault.Tells message → made.detail = message
  redacted : made.isRedacted = true → (∀ text, Prefers preferred text → sensitive = true) →
    made.detail = settings.redactedDetail

/-- The detail is the preferred text, the message unless that text holds it, and the kind. -/
structure Augmented : Prop where
  starts : ∀ text, Prefers preferred text → text.toList <+: made.detail.toList
  tells : Text.isBlank fault.display = false → fault.display.toList <:+: made.detail.toList
  holding : ∀ text message, Prefers preferred text → fault.Tells message →
    message.toList <:+: text.toList → made.detail = text ++ " (source: " ++ fault.kindName ++ ")"
  joined : ∀ text message, Prefers preferred text → fault.Tells message →
    ¬message.toList <:+: text.toList →
      made.detail = text ++ " | " ++ message ++ " (source: " ++ fault.kindName ++ ")"
  alone : ∀ message, (∀ text, ¬Prefers preferred text) → fault.Tells message →
    made.detail = message ++ " (source: " ++ fault.kindName ++ ")"

/-- The decision is the one that the settings, the predicate and the arguments call for. -/
structure Decides : Prop where
  isRedacted : made.isRedacted = false ↔ Discloses settings environment predicate fault
  stackTrace : made.includeStackTrace = true ↔
    environment.IsDeveloper ∧ settings.includeStackTraceInDevelopment = true
  exclusive : ¬(made.includeStackTrace = true ∧ made.isRedacted = true)
  verbatim : ¬Augments settings environment → Verbatim settings fault preferred sensitive made
  augmented : Augments settings environment → Augmented fault preferred made

variable {settings environment predicate fault preferred sensitive}

theorem allows_ofSettings : (ofSettings settings environment predicate).allows fault = true ↔
    Discloses settings environment predicate fault := by
  have safe : settings.safeKinds.any (Text.sameIgnoringCase · fault.kindName) = true ↔
      settings.IsSafe fault.kindName := by
    simp only [List.any_eq_true, Text.sameIgnoringCase_iff, SanitizerSettings.IsSafe]
  simp only [allows, ofSettings, Bool.or_eq_true, Environment.developer_ofSettings, safe,
    Option.any_eq_true]
  constructor
  · rintro ((isDeveloper | isSafe) | ⟨accepts, given, accepted⟩)
    · exact .developer isDeveloper
    · exact .safe isSafe
    · exact .allowed given accepted
  · intro discloses
    cases discloses with
    | developer isDeveloper => exact .inl (.inl isDeveloper)
    | safe isSafe => exact .inl (.inr isSafe)
    | allowed given accepted => exact .inr ⟨_, given, accepted⟩

theorem augments_iff : Augments settings environment ↔
    ((Environment.ofSettings environment).developer && settings.augmentDetailInDevelopment) =
      true := by
  rw [Bool.and_eq_true, Environment.developer_ofSettings, Augments]

section

variable {sanitizer : Sanitizer} {text message : String}

theorem detail_of_prefers (prefers : Prefers preferred text) :
    sanitizer.detail fault preferred sensitive =
      if !sensitive || sanitizer.allows fault then sanitizer.augment (some text) fault
      else sanitizer.settings.redactedDetail := by
  unfold detail
  rw [Text.nonBlank_eq_some_iff.2 prefers]

theorem detail_of_absent (absent : ∀ text, ¬Prefers preferred text) :
    sanitizer.detail fault preferred sensitive =
      if sanitizer.allows fault then sanitizer.augment none fault
      else sanitizer.settings.redactedDetail := by
  unfold detail
  rw [nonBlank_eq_none_iff.2 absent]

end

theorem augment_of_not_augments (plain : ¬Augments settings environment)
    (preferred : Option String) :
    (ofSettings settings environment predicate).augment preferred fault =
      preferred.getD (messageOf fault) := by
  rw [augments_iff] at plain
  exact if_neg plain

theorem augment_of_augments (augments : Augments settings environment)
    (preferred : Option String) :
    (ofSettings settings environment predicate).augment preferred fault =
      (match preferred with
        | some text => if Text.contains text (messageOf fault) then text
          else text ++ " | " ++ messageOf fault
        | none => messageOf fault) ++ " (source: " ++ fault.kindName ++ ")" := by
  rw [augments_iff] at augments
  exact if_pos augments

theorem verbatim_assess (plain : ¬Augments settings environment) :
    Verbatim settings fault preferred sensitive
      ((ofSettings settings environment predicate).assess fault preferred sensitive) := by
  refine ⟨?_, ?_, ?_⟩ <;> simp only [assess, Bool.not_eq_false', Bool.not_eq_true']
  · intro text prefers told
    have allowed : (!sensitive || (ofSettings settings environment predicate).allows fault) =
        true := by
      simpa only [Bool.or_eq_true, Bool.not_eq_true'] using told
    rw [detail_of_prefers prefers, if_pos allowed, augment_of_not_augments plain, Option.getD_some]
  · intro absent allowed message tells
    rw [detail_of_absent absent, if_pos allowed, augment_of_not_augments plain, Option.getD_none,
      messageOf_eq_iff.2 tells]
  · intro refused onlySensitive
    by_cases prefers : ∃ text, Prefers preferred text
    · obtain ⟨text, prefers⟩ := prefers
      rw [detail_of_prefers prefers, onlySensitive text prefers, refused]
      rfl
    · rw [detail_of_absent (not_exists.1 prefers), refused]
      rfl

section

variable (augments : Augments settings environment)
include augments

theorem allows_of_augments : (ofSettings settings environment predicate).allows fault = true :=
  allows_ofSettings.2 (.developer augments.1)

theorem detail_of_holding {text message : String} (prefers : Prefers preferred text)
    (tells : fault.Tells message) (holding : message.toList <:+: text.toList) :
    (ofSettings settings environment predicate).detail fault preferred sensitive =
      text ++ " (source: " ++ fault.kindName ++ ")" := by
  rw [← messageOf_eq_iff.2 tells, ← Text.contains_iff] at holding
  rw [detail_of_prefers prefers, allows_of_augments augments, Bool.or_true, if_pos rfl,
    augment_of_augments augments]
  dsimp only
  rw [if_pos holding]

theorem detail_of_joined {text message : String} (prefers : Prefers preferred text)
    (tells : fault.Tells message) (lacking : ¬message.toList <:+: text.toList) :
    (ofSettings settings environment predicate).detail fault preferred sensitive =
      text ++ " | " ++ message ++ " (source: " ++ fault.kindName ++ ")" := by
  rw [← messageOf_eq_iff.2 tells, ← Text.contains_iff] at lacking
  rw [detail_of_prefers prefers, allows_of_augments augments, Bool.or_true, if_pos rfl,
    augment_of_augments augments]
  dsimp only
  rw [if_neg lacking, messageOf_eq_iff.2 tells]

theorem detail_of_alone {message : String} (absent : ∀ text, ¬Prefers preferred text)
    (tells : fault.Tells message) :
    (ofSettings settings environment predicate).detail fault preferred sensitive =
      message ++ " (source: " ++ fault.kindName ++ ")" := by
  rw [detail_of_absent absent, allows_of_augments augments, if_pos rfl,
    augment_of_augments augments]
  dsimp only
  rw [messageOf_eq_iff.2 tells]

theorem augmented_assess : Augmented fault preferred
    ((ofSettings settings environment predicate).assess fault preferred sensitive) where
  starts text prefers := by
    have tells := messageOf_eq_iff.1 (rfl : messageOf fault = _)
    by_cases holding : (messageOf fault).toList <:+: text.toList
    · rw [assess, detail_of_holding augments prefers tells holding]
      simp [String.toList_append]
    · rw [assess, detail_of_joined augments prefers tells holding]
      simp [String.toList_append]
  tells present := by
    have tells : fault.Tells fault.display := .own present
    by_cases prefers : ∃ text, Prefers preferred text
    · obtain ⟨text, prefers⟩ := prefers
      by_cases holding : fault.display.toList <:+: text.toList
      · rw [assess, detail_of_holding augments prefers tells holding]
        simpa [String.toList_append] using holding.trans (List.prefix_append _ _).isInfix
      · rw [assess, detail_of_joined augments prefers tells holding]
        exact ⟨(text ++ " | ").toList, (" (source: " ++ fault.kindName ++ ")").toList,
          by simp [String.toList_append]⟩
    · rw [assess, detail_of_alone augments (not_exists.1 prefers) tells]
      exact ⟨[], (" (source: " ++ fault.kindName ++ ")").toList, by simp [String.toList_append]⟩
  holding _ _ := detail_of_holding augments
  joined _ _ := detail_of_joined augments
  alone _ := detail_of_alone augments

end

theorem isRedacted_assess :
    ((ofSettings settings environment predicate).assess fault preferred sensitive).isRedacted =
      false ↔ Discloses settings environment predicate fault := by
  rw [← allows_ofSettings]
  simp only [assess, Bool.not_eq_false']

theorem includeStackTrace_assess :
    ((ofSettings settings environment predicate).assess fault preferred
      sensitive).includeStackTrace = true ↔
        environment.IsDeveloper ∧ settings.includeStackTraceInDevelopment = true := by
  simp only [assess, Bool.and_eq_true, allows_ofSettings, and_assoc]
  constructor
  · rintro ⟨-, developer, included⟩
    exact ⟨Environment.developer_ofSettings.1 developer, included⟩
  · rintro ⟨isDeveloper, included⟩
    exact ⟨.developer isDeveloper, Environment.developer_ofSettings.2 isDeveloper, included⟩

variable (settings environment predicate fault preferred sensitive)

/-- The details are told in a developer environment, of a fault of a safe kind, and of one that the
predicate accepts, and of no other; a stack trace only in a developer environment. The detail is one
of three texts as it is, unless messages are added to details: then it starts with the preferred
text and has the message in it, which is added only to a text that does not hold it. -/
theorem sanitize_decides (ctx : RequestContext) (supply : Supply) :
    Decides settings environment predicate fault preferred sensitive
      (((ofSettings settings environment predicate).sanitize ctx fault preferred sensitive).run
        supply).value := by
  rw [value_sanitize]
  constructor
  · exact isRedacted_assess
  · exact includeStackTrace_assess
  · rintro ⟨included, redacted⟩
    have isDeveloper := (includeStackTrace_assess.1 included).1
    rw [isRedacted_assess.2 (.developer isDeveloper)] at redacted
    cases redacted
  · exact verbatim_assess
  · exact augmented_assess

end Sanitizer
end Faultline

import Faultline.Proofs.Telemetry.Modes
import Faultline.Proofs.Telemetry.NormalForm

/-!
Where the attributes of a plan come from. Main statement: the tags, the exception and the problem
follow tables of keys with their sources. No key comes twice, no text is blank or ends in white
space, and an attribute is missing exactly if its source is withheld, absent or blank.
-/

namespace Faultline.Telemetry
open Attributes

inductive Source where
  | text (withheld : Bool) (given : Option String)
  | integer (given : Option Int)

namespace Source

def value? : Source → Option AttributeValue
  | text withheld given => if withheld then none else given.bind told?
  | integer given => given.map .integer

variable {withheld : Bool} {given : Option String} {told : AttributeValue}

theorem value?_text_eq_some_iff : (text withheld given).value? = some told ↔
    withheld = false ∧ ∃ value ∈ given, Text.isBlank value = false ∧
      told = .text (normalize value) := by
  cases withheld <;> simp [value?, Option.bind_eq_some_iff, told?_eq_some_iff]

theorem value?_text_eq_none_iff : (text withheld given).value? = none ↔
    withheld = true ∨ ∀ value ∈ given, Text.isBlank value = true := by
  cases withheld <;> simp [value?, told?, Option.bind_eq_none_iff]

end Source

abbrev Table := List (String × Source)

def Table.attributes (table : Table) : Attributes :=
  table.flatMap fun entry => entry.2.value?.toList.map (Prod.mk entry.1)

section

variable {table : Table} {key : String} {source : Source}

theorem Table.attributes_cons (entry : String × Source) (rest : Table) :
    attributes (entry :: rest) =
      entry.2.value?.toList.map (Prod.mk entry.1) ++ attributes rest := List.flatMap_cons

theorem Table.attributes_append (a b : Table) :
    attributes (a ++ b) = attributes a ++ attributes b := List.flatMap_append

theorem Table.mem_attributes_iff {told : AttributeValue} : (key, told) ∈ table.attributes ↔
    ∃ source, (key, source) ∈ table ∧ source.value? = some told := by
  simp only [attributes, List.mem_flatMap, List.mem_map, Option.mem_toList, Prod.exists,
    Prod.mk.injEq]
  constructor
  · rintro ⟨name, source, member, value, told, rfl, rfl⟩
    exact ⟨source, member, told⟩
  · rintro ⟨source, member, told⟩
    exact ⟨key, source, member, _, told, rfl, rfl⟩

theorem Table.keys_attributes (table : Table) :
    (table.attributes.map Prod.fst).Sublist (table.map Prod.fst) := by
  induction table with
  | nil => exact .slnil
  | cons entry rest ih =>
    rw [attributes_cons]
    cases entry.2.value? with
    | none => exact ih.cons entry.1
    | some told => exact ih.cons_cons entry.1

theorem Attributes.get?_eq_none_of_not_mem {attributes : Attributes}
    (absent : key ∉ attributes.map Prod.fst) : attributes.get? key = none := by
  rw [get?, Option.map_eq_none_iff, List.find?_eq_none]
  intro entry member same
  exact absent ((beq_iff_eq.1 same) ▸ List.mem_map_of_mem member)

theorem Table.get?_attributes (distinct : (table.map Prod.fst).Nodup)
    (member : (key, source) ∈ table) : table.attributes.get? key = source.value? := by
  induction table with
  | nil => cases member
  | cons entry rest ih =>
    rw [List.map_cons, List.nodup_cons] at distinct
    rw [attributes_cons, get?_append]
    rcases List.mem_cons.1 member with rfl | later
    · have absent : get? (attributes rest) key = none :=
        get?_eq_none_of_not_mem (mt (fun told => (keys_attributes rest).subset told) distinct.1)
      rw [absent, Option.or_none]
      cases source.value? <;> simp [get?]
    · have different : entry.1 ≠ key := by
        rintro rfl
        exact distinct.1 (List.mem_map.2 ⟨_, later, rfl⟩)
      have absent : get? (entry.2.value?.toList.map (Prod.mk entry.1)) key = none := by
        cases entry.2.value? <;> simp [get?, different]
      rw [absent, Option.none_or, ih distinct.2 later]

end

/-- The attributes are told of the sources, in the order of the table. -/
structure Attributes.Follow (attributes : Attributes) (table : Table) : Prop where
  distinct : (attributes.map Prod.fst).Nodup
  ordered : (attributes.map Prod.fst).Sublist (table.map Prod.fst)
  visible : ∀ key value, (key, .text value) ∈ attributes →
    Text.isBlank value = false ∧ ∀ c ∈ value.toList.getLast?, Text.isSpace c = false
  missing : ∀ key withheld given, (key, Source.text withheld given) ∈ table →
    (attributes.get? key = none ↔ withheld = true ∨ ∀ value ∈ given, Text.isBlank value = true)
  normalized : ∀ key withheld given told, (key, Source.text withheld given) ∈ table →
    attributes.get? key = some told → ∃ value ∈ given, told = .text (normalize value)
  number : ∀ key given, (key, Source.integer given) ∈ table →
    attributes.get? key = given.map .integer

theorem Table.follow_attributes {table : Table} (distinct : (table.map Prod.fst).Nodup) :
    table.attributes.Follow table where
  distinct := table.keys_attributes.nodup distinct
  ordered := table.keys_attributes
  visible := by
    intro key value member
    obtain ⟨source, -, told⟩ := mem_attributes_iff.1 member
    cases source with
    | text withheld given =>
      obtain ⟨-, text, -, mark, same⟩ := Source.value?_text_eq_some_iff.1 told
      obtain rfl : value = normalize text := AttributeValue.text.inj same
      exact ⟨isBlank_normalize mark, trimmed_normalize text⟩
    | integer given => cases given <;> cases told
  missing := by
    intro key withheld given member
    rw [get?_attributes distinct member, Source.value?_text_eq_none_iff]
  normalized := by
    intro key withheld given told member found
    rw [get?_attributes distinct member] at found
    obtain ⟨-, value, present, -, same⟩ := Source.value?_text_eq_some_iff.1 found
    exact ⟨value, present, same⟩
  number := fun key given member => get?_attributes distinct member

/-! ### The tables of a plan -/

def baseTable (environment : Environment) (ctx : RequestContext) (report : ErrorReport) : Table :=
  [("problemkit.trace_id", .text false (some ctx.traceId)),
    ("http.request.path", .text false (some ctx.path)),
    ("http.response.status_code", .integer (some report.status.code)),
    ("problemkit.error.id", .text false (some report.reference.errorId)),
    ("problemkit.error.code", .text false (some report.reference.errorCode)),
    ("problemkit.problem.type", .text false (some report.problem.typeUri)),
    ("problemkit.problem.title", .text false (some report.problem.title)),
    ("deployment.environment", .text false (some environment.name))]

/-- What is redacted is withheld but for the message, which is then the sanitized detail. -/
def exceptionTable (fault : Fault) (decision : Sanitization) (redacted : Bool) : Table :=
  [("exception.type", .text redacted (some fault.typeName)),
    ("exception.message",
      .text false (some (if redacted then decision.detail else fault.display))),
    ("exception.stacktrace", .text (redacted || !decision.includeStackTrace) fault.stackTrace),
    ("exception.source", .text redacted (some fault.kindName)),
    ("exception.full", .text redacted (some (fullText fault (includedStack fault decision))))]

def problemTable (problem : Problem) (status : Status) : Table :=
  [("problem.type", .text false (some problem.typeUri)),
    ("problem.code", .text false (some problem.code)),
    ("problem.title", .text false (some problem.title)),
    ("problem.status", .integer (some status.code)),
    ("problem.detail", .text false (some problem.detail)),
    ("problem.instance", .text false (some problem.instanceUri)),
    ("problem.trace_id", .text false (some problem.traceId)),
    ("problem.error_id", .text false problem.errorId),
    ("problem.sql_error_number",
      .integer ((problem.extension? "sqlErrorNumber").bind Json.int64?)),
    ("problem.category", .text false ((problem.extension? "category").bind Json.string?)),
    ("problem.upstream_status",
      .integer ((problem.extension? "upstreamStatus").bind Json.int64?))]

theorem nodup_tables (environment : Environment) (ctx : RequestContext) (report : ErrorReport)
    (redacted : Bool) :
    ((baseTable environment ctx report ++
      exceptionTable report.fault report.sanitization redacted ++
      problemTable report.problem report.status).map Prod.fst).Nodup := by
  simp [baseTable, exceptionTable, problemTable]

section

variable (key : String)

theorem Table.attributes_text (given : Option String) (rest : Table) :
    attributes ((key, .text false given) :: rest) = text? key given ++ attributes rest := by
  cases given with
  | none => rfl
  | some value =>
    rw [attributes_cons, text?, text_eq]
    rfl

theorem Table.attributes_withheld (given : Option String) (rest : Table) :
    attributes ((key, .text true given) :: rest) = attributes rest := rfl

theorem Table.attributes_integer (given : Option Int) (rest : Table) :
    attributes ((key, .integer given) :: rest) = integer? key given ++ attributes rest := by
  cases given <;> rfl

theorem Table.attributes_nil : attributes [] = [] := rfl

end

theorem attributes_baseTable (environment : Environment) (ctx : RequestContext)
    (report : ErrorReport) :
    (baseTable environment ctx report).attributes = baseAttributes environment ctx report := by
  simp only [baseTable, baseAttributes, Table.attributes_text, Table.attributes_integer,
    Table.attributes_nil, text?, integer?, List.append_assoc, List.append_nil]

theorem attributes_problemTable (problem : Problem) (status : Status) :
    (problemTable problem status).attributes = problemAttributes problem status := by
  simp only [problemTable, problemAttributes, Table.attributes_text, Table.attributes_integer,
    Table.attributes_nil, text?, integer?, List.append_assoc, List.append_nil]

theorem attributes_exceptionTable (fault : Fault) (decision : Sanitization) (redacted : Bool) :
    (exceptionTable fault decision redacted).attributes =
      exceptionAttributes fault decision redacted := by
  cases redacted with
  | true =>
    simp only [exceptionTable, exceptionAttributes, Table.attributes_withheld,
      Table.attributes_text, Table.attributes_nil, Bool.true_or, text?, if_true, List.append_nil]
  | false =>
    have stack (rest : Table) :
        Table.attributes (("exception.stacktrace",
            .text (false || !decision.includeStackTrace) fault.stackTrace) :: rest) =
          text? "exception.stacktrace" (includedStack fault decision) ++ rest.attributes := by
      unfold includedStack
      cases decision.includeStackTrace with
      | true => exact Table.attributes_text _ _ _
      | false => exact Table.attributes_withheld _ _ _
    simp only [exceptionAttributes_disclosed, exceptionTable, stack, Table.attributes_text,
      Table.attributes_nil, text?, Bool.false_eq_true, if_false, List.append_assoc, List.append_nil]

def IsLong (n : Int) : Prop := Int64.minValue.toInt ≤ n ∧ n ≤ Int64.maxValue.toInt

/-- The number of an extension member stands under the key if it is an integer of 64 bits. -/
def Attributes.TellNumber (attributes : Attributes) (key : String) (member : Option Json) : Prop :=
  ∀ told, attributes.get? key = some told ↔
    ∃ n, told = .integer n ∧ member = some (.integer n) ∧ IsLong n

theorem int64?_eq_some_iff {value : Json} {n : Int} :
    value.int64? = some n ↔ value = .integer n ∧ IsLong n := by
  have least : Int64.minValue.toInt = -Nat.pow 2 63 := by decide
  have most : Int64.maxValue.toInt = Nat.pow 2 63 - 1 := by decide
  have bounds : IsLong n ↔ -Nat.pow 2 63 ≤ n ∧ n < Nat.pow 2 63 := by
    rw [IsLong, least, most]
    omega
  cases value with
  | integer given =>
    rw [bounds, Json.int64?, Option.ite_none_right_eq_some, Option.some.injEq, Json.integer.injEq]
    constructor
    · rintro ⟨within, rfl⟩
      exact ⟨rfl, within⟩
    · rintro ⟨rfl, within⟩
      exact ⟨within, rfl⟩
  | null | bool | decimal | string | array | object => simp [Json.int64?]

theorem Attributes.Follow.tellNumber {attributes : Attributes} {table : Table} {key : String}
    {member : Option Json} (follow : attributes.Follow table)
    (entry : (key, Source.integer (member.bind Json.int64?)) ∈ table) :
    attributes.TellNumber key member := by
  intro told
  rw [follow.number key _ entry, Option.map_eq_some_iff]
  constructor
  · rintro ⟨n, found, rfl⟩
    obtain ⟨value, rfl, number⟩ := Option.bind_eq_some_iff.1 found
    obtain ⟨rfl, within⟩ := int64?_eq_some_iff.1 number
    exact ⟨n, rfl, rfl, within⟩
  · rintro ⟨n, rfl, rfl, within⟩
    exact ⟨n, int64?_eq_some_iff.2 ⟨rfl, within⟩, rfl⟩

theorem Attributes.Follow.numbers {attributes : Attributes} {table : Table} (problem : Problem)
    (status : Status) (follow : attributes.Follow table)
    (known : problemTable problem status ⊆ table) :
    attributes.TellNumber "problem.sql_error_number" (problem.extension? "sqlErrorNumber") ∧
      attributes.TellNumber "problem.upstream_status" (problem.extension? "upstreamStatus") := by
  constructor
  · exact follow.tellNumber (known (by simp [problemTable]))
  · exact follow.tellNumber (known (by simp [problemTable]))

/-- The tags and both events follow their tables. The tags are those of every failure, and then
exactly the attributes of the exception and of the problem. -/
theorem Planner.plan_follows_tables (planner : Planner) (ctx : RequestContext)
    (report : ErrorReport) :
    let plan := planner.plan ctx report
    let base := baseTable planner.sanitizer.environment ctx report
    let exception := exceptionTable report.fault report.sanitization
      (planner.redacts report.sanitization)
    let problem := problemTable report.problem report.status
    plan.tags.Follow (base ++ exception ++ problem) ∧ plan.exception.Follow exception ∧
      plan.problem.Follow problem ∧
      (∃ first, first.Follow base ∧ plan.tags = first ++ plan.exception ++ plan.problem) ∧
      ∀ told ∈ [plan.problem, plan.tags],
        told.TellNumber "problem.sql_error_number" (report.problem.extension? "sqlErrorNumber") ∧
          told.TellNumber "problem.upstream_status"
            (report.problem.extension? "upstreamStatus") := by
  intro plan base exception problem
  have distinct := nodup_tables planner.sanitizer.environment ctx report
    (planner.redacts report.sanitization)
  have part {table : Table} (among : table.Sublist (base ++ exception ++ problem)) :
      table.attributes.Follow table := Table.follow_attributes (distinct.sublist (among.map _))
  have first : plan.tags = base.attributes ++ plan.exception ++ plan.problem := by
    rw [attributes_baseTable]
    rfl
  have followException : plan.exception.Follow exception := by
    have told : exception.attributes = plan.exception := attributes_exceptionTable _ _ _
    rw [← told]
    exact part ((List.sublist_append_right _ _).trans (List.sublist_append_left _ _))
  have followProblem : plan.problem.Follow problem := by
    have told : problem.attributes = plan.problem := attributes_problemTable _ _
    rw [← told]
    exact part (List.sublist_append_right _ _)
  have followTags : plan.tags.Follow (base ++ exception ++ problem) := by
    have told : (base ++ exception ++ problem).attributes = plan.tags := by
      rw [Table.attributes_append, Table.attributes_append, attributes_exceptionTable,
        attributes_problemTable, first]
      rfl
    rw [← told]
    exact part (List.Sublist.refl _)
  refine ⟨followTags, followException, followProblem, ⟨base.attributes, ?_, first⟩, ?_⟩
  · exact part ((List.sublist_append_left _ _).trans (List.sublist_append_left _ _))
  · have known : problem ⊆ base ++ exception ++ problem :=
      List.subset_append_right (base ++ exception) problem
    intro told member
    rcases List.mem_pair.1 member with same | same
    · rw [same]
      exact followProblem.numbers _ _ (List.Subset.refl _)
    · rw [same]
      exact followTags.numbers _ _ known

end Faultline.Telemetry

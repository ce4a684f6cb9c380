import Faultline.Proofs.Fault.StackTrace
import Faultline.Proofs.Mapper.BuiltIn
import Faultline.Proofs.Telemetry.Attributes
import Faultline.Telemetry.Plan

/-!
The two modes of disclosure, side by side. Main statement: their plans differ in the exception only,
and only if the decision on the fault is to redact it; and when a stack trace is told.
-/

namespace Faultline

namespace Fault

def summary (fault : Fault) : String := fault.typeName ++ ": " ++ fault.display

theorem isBlank_summary (fault : Fault) : Text.isBlank fault.summary = false := by
  have mark : Text.isBlank ": " = false := by decide
  rw [summary, Text.isBlank_append, Text.isBlank_append, mark, Bool.and_false, Bool.false_and]

/-- Only a fault of unknown type has a stack trace that is blank, and its message is blank then. -/
theorem unrecognized_of_blank {fault : Fault} {stack : String}
    (present : fault.stackTrace = some stack) (blank : Text.isBlank stack = true) :
    ∃ report, fault = .unrecognized report ∧ Text.isBlank report.message = true := by
  cases fault with
  | unrecognized report =>
    rw [stackTrace_unrecognized] at present
    obtain rfl := Option.some.inj present
    rw [Text.isBlank_append, Text.isBlank_append, Bool.and_eq_true, Bool.and_eq_true] at blank
    exact ⟨report, rfl, blank.1.1⟩
  | app error =>
    -- the line of a cause is not blank
    have mark : Text.isBlank "caused by: " = false := by decide
    rw [stackTrace_app] at present
    split at present
    next => cases present
    next =>
      obtain rfl := Option.some.inj present
      rw [Text.isBlank_append, Text.isBlank_append, mark] at blank
      cases blank
  | database | remote | timeout => cases present

end Fault

namespace Telemetry
open Attributes

def isExceptionKey (key : String) : Bool :=
  ["exception.type", "exception.message", "exception.stacktrace", "exception.source",
    "exception.full"].contains key

namespace Enrichment

def exceptionTags (enrichment : Enrichment) : Attributes := enrichment.tags.under isExceptionKey

def otherTags (enrichment : Enrichment) : Attributes :=
  enrichment.tags.under fun key => !isExceptionKey key

structure AgreeApart (a b : Enrichment) : Prop where
  statusDescription : a.statusDescription = b.statusDescription
  problem : a.problem = b.problem
  otherTags : a.otherTags = b.otherTags

end Enrichment

theorem under_exceptionAttributes (fault : Fault) (decision : Sanitization) (redacted : Bool) :
    (exceptionAttributes fault decision redacted).under isExceptionKey =
      exceptionAttributes fault decision redacted := by
  unfold exceptionAttributes
  split <;> simp [isExceptionKey]

theorem under_problemAttributes (problem : Problem) (status : Status) :
    (problemAttributes problem status).under isExceptionKey = [] := by
  simp [problemAttributes, isExceptionKey]

theorem under_baseAttributes (environment : Environment) (ctx : RequestContext)
    (report : ErrorReport) :
    (baseAttributes environment ctx report).under isExceptionKey = [] := by
  simp [baseAttributes, isExceptionKey]

theorem exceptionTags_plan (planner : Planner) (ctx : RequestContext) (report : ErrorReport) :
    (planner.plan ctx report).exceptionTags = (planner.plan ctx report).exception := by
  simp only [Enrichment.exceptionTags, Planner.plan, under_append, under_baseAttributes,
    under_exceptionAttributes, under_problemAttributes, List.nil_append, List.append_nil]

theorem otherTags_plan (planner : Planner) (ctx : RequestContext) (report : ErrorReport) :
    (planner.plan ctx report).otherTags =
      baseAttributes planner.sanitizer.environment ctx report ++
        problemAttributes report.problem report.status := by
  rw [Enrichment.otherTags, Planner.plan, under_append, under_append,
    under_other (under_baseAttributes ..), under_other (under_problemAttributes ..),
    under_other_eq_nil (under_exceptionAttributes ..), List.append_nil]

/-- The decision and the mode let a stack trace be told, and the fault has one that is not blank. -/
structure Planner.Shows (planner : Planner) (report : ErrorReport) (stack : String) : Prop where
  included : report.sanitization.includeStackTrace = true
  disclosed : planner.redacts report.sanitization = false
  present : report.fault.stackTrace = some stack
  mark : Text.isBlank stack = false

/-- A stack trace that is shown stands alone and at the end of the full text; otherwise there is
none, and the full text, if any, is the summary. -/
structure Planner.TellsStack (planner : Planner) (report : ErrorReport) (event : Attributes) :
    Prop where
  stacktrace : ∀ told, event.get? "exception.stacktrace" = some told ↔
    ∃ stack, planner.Shows report stack ∧ told = .text (normalize stack)
  full : ∀ stack, planner.Shows report stack → ∃ full, event.get? "exception.full" =
      some (.text full) ∧ full = normalize (report.fault.summary ++ "\n" ++ stack) ∧
    (normalize stack).toList.splitOn '\n' <:+ full.toList.splitOn '\n'
  fullAlone : (∀ stack, ¬planner.Shows report stack) → event.get? "exception.full" =
    if planner.redacts report.sanitization then none
    else some (.text (normalize report.fault.summary))

structure TellsFault (event : Attributes) (fault : Fault) : Prop where
  type : event.get? "exception.type" = told? fault.typeName
  message : event.get? "exception.message" = told? fault.display
  source : event.get? "exception.source" = told? fault.kindName

theorem tellsFault_disclosed (fault : Fault) (decision : Sanitization) :
    TellsFault (exceptionAttributes fault decision false) fault := by
  constructor <;> simp [exceptionAttributes]

theorem normalize_summary_of_blank {fault : Fault} {stack : String}
    (present : fault.stackTrace = some stack) (blank : Text.isBlank stack = true) :
    normalize (fault.summary ++ "\n" ++ stack) = normalize fault.summary := by
  have plain : Text.IsPlain "anyhow::Error:" :=
    ⟨by decide, by decide, List.all_eq_true.1 (by decide)⟩
  -- all that follows the type is blank, with and without the stack trace
  obtain ⟨report, rfl, silent⟩ := Fault.unrecognized_of_blank present blank
  have named : Fault.summary (.unrecognized report) = "anyhow::Error:" ++ (" " ++ report.message) :=
    String.append_assoc ..
  have alone : Text.isBlank (" " ++ report.message) = true := by
    rw [Text.isBlank_append, silent]
    rfl
  have both : Text.isBlank (" " ++ report.message ++ ("\n" ++ stack)) = true := by
    rw [Text.isBlank_append, Text.isBlank_append, Text.isBlank_append, silent, blank]
    rfl
  rw [named, plain.normalize_append alone, String.append_assoc, String.append_assoc,
    plain.normalize_append both]

def includedStack (fault : Fault) (decision : Sanitization) : Option String :=
  if decision.includeStackTrace then fault.stackTrace else none

def fullText (fault : Fault) : (stack : Option String) → String
  | some stack => fault.summary ++ "\n" ++ stack
  | none => fault.summary

theorem exceptionAttributes_disclosed (fault : Fault) (decision : Sanitization) :
    exceptionAttributes fault decision false =
      text "exception.type" fault.typeName ++ text "exception.message" fault.display ++
        text? "exception.stacktrace" (includedStack fault decision) ++
        text "exception.source" fault.kindName ++
        text "exception.full" (fullText fault (includedStack fault decision)) := by
  unfold exceptionAttributes includedStack
  rw [if_neg Bool.false_ne_true]
  dsimp only
  generalize (if decision.includeStackTrace then fault.stackTrace else none) = stack
  cases stack <;> rfl

theorem told?_fullText (fault : Fault) (stack : Option String) :
    told? (fullText fault stack) = some (.text (normalize (fullText fault stack))) := by
  have mark : Text.isBlank (fullText fault stack) = false := by
    cases stack with
    | none => exact fault.isBlank_summary
    | some stack => simp [fullText, Text.isBlank_append, fault.isBlank_summary]
  rw [told?, mark]
  rfl

namespace Planner

theorem tellsStack_redacted {planner : Planner} {report : ErrorReport}
    (redacts : planner.redacts report.sanitization = true) :
    planner.TellsStack report (exceptionAttributes report.fault report.sanitization true) := by
  have hidden (stack : String) : ¬planner.Shows report stack := by
    intro shows
    have disclosed := shows.disclosed
    rw [redacts] at disclosed
    cases disclosed
  constructor
  · simp [exceptionAttributes, hidden]
  · exact fun stack shows => (hidden stack shows).elim
  · simp [exceptionAttributes, redacts]

theorem tellsStack_disclosed {planner : Planner} {report : ErrorReport}
    (redacts : planner.redacts report.sanitization = false) :
    planner.TellsStack report (exceptionAttributes report.fault report.sanitization false) := by
  have shows_iff (stack : String) : planner.Shows report stack ↔
      includedStack report.fault report.sanitization = some stack ∧
        Text.isBlank stack = false := by
    unfold includedStack
    constructor
    · intro shows
      rw [if_pos shows.included]
      exact ⟨shows.present, shows.mark⟩
    · rintro ⟨given, mark⟩
      split_ifs at given with included
      exact ⟨included, redacts, given, mark⟩
  rw [exceptionAttributes_disclosed]
  constructor
  · intro told
    simp [shows_iff, Option.bind_eq_some_iff, told?_eq_some_iff, and_assoc]
  · intro stack shows
    have full : fullText report.fault (includedStack report.fault report.sanitization) =
        report.fault.summary ++ "\n" ++ stack := by
      rw [((shows_iff stack).1 shows).1]
      rfl
    refine ⟨_, ?_, rfl, splitOn_normalize_suffix shows.mark _⟩
    simp [told?_fullText, ← full]
  · intro hidden
    -- a stack trace that is there but blank tells no more than none
    have alone : normalize (fullText report.fault
        (includedStack report.fault report.sanitization)) = normalize report.fault.summary := by
      cases given : includedStack report.fault report.sanitization with
      | none => rfl
      | some stack =>
        have blank : Text.isBlank stack = true := by
          by_contra mark
          exact hidden stack ((shows_iff stack).2 ⟨given, by simpa using mark⟩)
        unfold includedStack at given
        split_ifs at given
        exact normalize_summary_of_blank given blank
    simp [told?_fullText, redacts, alone]

theorem tellsStack_plan (planner : Planner) (ctx : RequestContext) (report : ErrorReport) :
    planner.TellsStack report (planner.plan ctx report).exception := by
  show planner.TellsStack report (exceptionAttributes report.fault report.sanitization
    (planner.redacts report.sanitization))
  cases redacts : planner.redacts report.sanitization with
  | true => exact tellsStack_redacted redacts
  | false => exact tellsStack_disclosed redacts

end Planner

theorem includeStackTrace_of_deployed {sanitizer : Sanitizer}
    (deployed : sanitizer.environment.developer = false) (fault : Fault)
    (preferred : Option String) (sensitive : Bool) :
    (sanitizer.assess fault preferred sensitive).includeStackTrace = false := by
  simp [Sanitizer.assess, deployed]

section
variable (sanitizer : Sanitizer) (ctx : RequestContext) (report : ErrorReport)

theorem agreeApart_plan (a b : DisclosureMode) :
    ((Planner.mk sanitizer a).plan ctx report).AgreeApart
      ((Planner.mk sanitizer b).plan ctx report) :=
  ⟨rfl, rfl, by rw [otherTags_plan, otherTags_plan]⟩

/-- The two plans differ in the exception only, and only if the fault is redacted: the one is then
the same for all faults and at most tells the sanitized detail, the other tells the fault. Both
tell the stack trace if it is shown, which no decision made outside of a developer's environment
lets it be. -/
theorem modes_differ_on_redacted_exception :
    let plan (mode : DisclosureMode) := (Planner.mk sanitizer mode).plan ctx
    let matching := plan .matchResponse report
    let operating := plan .operator report
    matching.AgreeApart operating ∧
      (report.sanitization.isRedacted = false → matching = operating) ∧
      (report.sanitization.isRedacted = true →
        (∀ other, plan .matchResponse { report with fault := other } = matching) ∧
        matching.exception = (if Text.isBlank report.sanitization.detail then []
          else [("exception.message", .text (normalize report.sanitization.detail))]) ∧
        TellsFault operating.exception report.fault) ∧
      (∀ mode, (plan mode report).exceptionTags = (plan mode report).exception ∧
        (Planner.mk sanitizer mode).TellsStack report (plan mode report).exception) ∧
      ∀ (origin : Sanitizer) request fault preferred sensitive supply,
        origin.environment.developer = false →
        report.sanitization =
          ((origin.sanitize request fault preferred sensitive).run supply).value →
        ∀ mode, (∀ stack, ¬(Planner.mk sanitizer mode).Shows report stack) ∧
          (plan mode report).exception.get? "exception.stacktrace" = none := by
  intro plan matching operating
  refine ⟨agreeApart_plan sanitizer ctx report _ _, ?_, ?_, ?_, ?_⟩
  · intro disclosed
    simp only [matching, operating, plan, Planner.plan, Planner.redacts, disclosed]
  · intro redacted
    refine ⟨fun other => ?_, ?_, tellsFault_disclosed report.fault report.sanitization⟩
    · simp only [matching, plan, Planner.plan, Planner.redacts, redacted, exceptionAttributes,
        if_true]
      rfl
    · have alone : matching.exception = text "exception.message" report.sanitization.detail := by
        simp only [matching, plan, Planner.plan, Planner.redacts, redacted, exceptionAttributes,
          if_true]
      rw [alone, text_eq, told?]
      split <;> rfl
  · intro mode
    exact ⟨exceptionTags_plan _ ctx report, Planner.tellsStack_plan _ ctx report⟩
  · intro origin request fault preferred sensitive supply deployed decided mode
    have hidden (stack : String) : ¬(Planner.mk sanitizer mode).Shows report stack := by
      intro shows
      have included := shows.included
      rw [decided, Sanitizer.value_sanitize, includeStackTrace_of_deployed deployed] at included
      cases included
    refine ⟨hidden, Option.eq_none_iff_forall_ne_some.2 fun told given => ?_⟩
    obtain ⟨stack, shows, -⟩ := ((Planner.tellsStack_plan _ ctx report).stacktrace told).1 given
    exact hidden stack shows

end

def failedSave : Fault := .unrecognized ⟨"save failed", ["disk full"], some "0: save"⟩

def saveReport (decision : Sanitization) : ErrorReport where
  fault := failedSave
  problem := .new .internalError "Save failed" decision.detail
  status := .internalError
  sanitization := decision
  reference := ⟨"err-7", "UNEXPECTED"⟩

def saving : RequestContext := .start "5d20" (by decide) "/save"

def deployedSanitizer : Sanitizer := ⟨.default, .production, none⟩

theorem modes_differ_on_redacted_exception_outage :
    let plan (mode : DisclosureMode) := (Planner.mk deployedSanitizer mode).plan saving
    let deployed := saveReport (deployedSanitizer.assess failedSave none false)
    let elsewhere := saveReport ⟨"hidden", true, true⟩
    (plan .matchResponse deployed).exception =
        [("exception.message", .text "An unexpected error occurred.")] ∧
      (plan .operator deployed).exception.get? "exception.message" = some (.text "save failed") ∧
      (plan .operator deployed).exception.get? "exception.stacktrace" = none ∧
      (plan .operator elsewhere).exception.get? "exception.stacktrace" =
        some (.text "save failed\ncaused by: disk full\n0: save") := by
  intro plan deployed elsewhere
  obtain ⟨-, -, redacted, -, leaves⟩ :=
    modes_differ_on_redacted_exception deployedSanitizer saving deployed
  obtain ⟨-, -, -, tells, -⟩ :=
    modes_differ_on_redacted_exception deployedSanitizer saving elsewhere
  obtain ⟨-, detail, told⟩ := redacted (by decide +kernel)
  have withheld := leaves deployedSanitizer saving failedSave none false
    (fun _ => ⟨.replicate 32 5⟩) (by decide +kernel) (by rw [Sanitizer.value_sanitize]; rfl)
    .operator
  refine ⟨detail.trans (by decide +kernel), told.message.trans (by decide +kernel), withheld.2, ?_⟩
  refine ((tells .operator).2.stacktrace _).2 ⟨"save failed\ncaused by: disk full\n0: save", ?_, ?_⟩
  · exact ⟨rfl, rfl, by decide +kernel, by decide +kernel⟩
  · decide +kernel

end Telemetry
end Faultline

import Faultline.Fault.Basic

/-!
Stack traces, told by the chain of errors behind a fault: which lines they have and in which order,
where contexts were added to an error, where a backtrace was captured, and which faults have none.
-/

namespace Faultline

/-- The last context says what the report says. Behind it are the earlier ones, from last to first,
and then all that was there before. -/
theorem Report.foldl_withContext (report : Report) (earlier : List String) (last : String) :
    (earlier ++ [last]).foldl withContext report =
      { report with
        message := last
        causes := earlier.reverse ++ report.message :: report.causes } := by
  induction earlier generalizing report with
  | nil => rfl
  | cons context later ih =>
    rw [List.cons_append, List.foldl_cons, ih, List.reverse_cons, List.append_assoc]
    rfl

namespace Fault

theorem followCauses_eq (lines chain : List String) :
    followCauses lines chain = lines ++ chain.map causeLine := by
  induction chain generalizing lines with
  | nil => exact (List.append_nil lines).symm
  | cons cause behind ih =>
    rw [followCauses, ih, List.append_assoc, List.map_cons, List.singleton_append]

def causedBy (chain : List String) : String :=
  .join (chain.map fun cause => "\ncaused by: " ++ cause)

def captured : Option String → String
  | some backtrace => "\n" ++ backtrace
  | none => ""

theorem intercalate_lines (first : String) (chain : List String) (backtrace : Option String) :
    "\n".intercalate (first :: (chain.map causeLine ++ backtrace.toList)) =
      first ++ causedBy chain ++ captured backtrace := by
  induction chain generalizing first with
  | nil =>
    rw [show first ++ causedBy [] = first from String.append_empty]
    cases backtrace with
    | none => exact String.intercalate_singleton.trans String.append_empty.symm
    | some backtrace =>
      calc
        "\n".intercalate [first, backtrace] = first ++ "\n" ++ "\n".intercalate [backtrace] :=
          String.intercalate_cons_cons
        _ = first ++ ("\n" ++ backtrace) := by
          rw [String.intercalate_singleton, String.append_assoc]
  | cons cause behind ih =>
    have line : "\n" ++ causeLine cause = "\ncaused by: " ++ cause := by
      rw [causeLine, ← String.append_assoc]
      rfl
    have joined : first ++ ("\n" ++ causeLine cause ++ causedBy behind) =
        first ++ causedBy (cause :: behind) := by
      rw [line]
      exact congrArg (first ++ ·) String.join_cons.symm
    calc
      "\n".intercalate (first :: ((cause :: behind).map causeLine ++ backtrace.toList)) =
          first ++ "\n" ++ "\n".intercalate
            (causeLine cause :: (behind.map causeLine ++ backtrace.toList)) :=
        String.intercalate_cons_cons
      _ = first ++ ("\n" ++ causeLine cause ++ causedBy behind) ++ captured backtrace := by
        rw [ih]
        simp only [String.append_assoc]
      _ = first ++ causedBy (cause :: behind) ++ captured backtrace := by rw [joined]

theorem stackTrace_unrecognized (report : Report) :
    (unrecognized report).stackTrace =
      some (report.message ++ causedBy report.causes ++ captured report.backtrace) := by
  rw [← intercalate_lines]
  simp only [stackTrace, followCauses_eq]
  rfl

theorem stackTrace_app (error : AppError) :
    (app error).stackTrace = match error.causes with
      | [] => none
      | cause :: behind => some ("caused by: " ++ cause ++ causedBy behind) := by
  simp only [stackTrace, followCauses_eq, causes, List.nil_append]
  cases error.causes with
  | nil => rfl
  | cons cause behind =>
    have lines := intercalate_lines (causeLine cause) behind none
    exact congrArg some (lines.trans String.append_empty)

/-- A fault of unknown type comes first, then each error of its chain: contexts from last to first,
and then the message they were added to and what was behind it. Only a backtrace that was captured
follows. An application error is told by its chain alone, and the other faults have none. -/
theorem stackTrace_tells_chain :
    (∀ report : Report, (unrecognized report).backtrace? = none →
      (unrecognized report).stackTrace =
        some ((unrecognized report).display ++ causedBy report.causes)) ∧
    (∀ (message : String) (causes earlier : List String) (last : String),
      let report := (earlier ++ [last]).foldl Report.withContext ⟨message, causes, none⟩
      (unrecognized report).stackTrace =
        some (last ++ causedBy (earlier.reverse ++ message :: causes))) ∧
    (∀ error : AppError, ((app error).stackTrace = none ↔ error.causes = []) ∧
      ∀ cause behind, error.causes = cause :: behind →
        (app error).stackTrace = some ("caused by: " ++ cause ++ causedBy behind)) ∧
    (∀ number message, (database number message).stackTrace = none) ∧
    (∀ status message, (remote status message).stackTrace = none) ∧
    ∀ operation budget, (timeout operation budget).stackTrace = none := by
  refine ⟨?_, ?_, fun error => ⟨?_, ?_⟩, fun _ _ => rfl, fun _ _ => rfl, fun _ _ => rfl⟩
  · intro report off
    have none : report.backtrace = none := off
    rw [stackTrace_unrecognized, none]
    exact congrArg some String.append_empty
  · intro message causes earlier last report
    dsimp only [report]
    rw [Report.foldl_withContext, stackTrace_unrecognized]
    exact congrArg some String.append_empty
  · rw [stackTrace_app]
    cases error.causes with
    | nil => exact iff_of_true rfl rfl
    | cons cause behind => exact iff_of_false (Option.some_ne_none _) (List.cons_ne_nil _ _)
  · intro cause behind chain
    rw [stackTrace_app, chain]

def ledgerError : AppError :=
  .custom { CustomError.plain "LedgerError" .unexpected "not saved" with causes := ["full", "bad"] }

theorem stackTrace_tells_chain_ledger :
    (unrecognized (["reading", "loading ledger"].foldl Report.withContext
        ⟨"root cause", ["disk full"], none⟩)).stackTrace =
      some "loading ledger\ncaused by: reading\ncaused by: root cause\ncaused by: disk full" ∧
    (app ledgerError).stackTrace = some "caused by: full\ncaused by: bad" := by
  obtain ⟨-, contexts, apps, -⟩ := stackTrace_tells_chain
  exact ⟨(contexts "root cause" ["disk full"] ["reading"] "loading ledger").trans (by decide),
    ((apps ledgerError).2 "full" ["bad"] rfl).trans (by decide)⟩

example : (unrecognized ⟨"reading", ["disk full"], some "0: load"⟩).stackTrace =
    some "reading\ncaused by: disk full\n0: load" := by
  decide

end Fault
end Faultline

import Mathlib.Data.List.Basic

namespace ChattingProgram.Core

/-! # Database connections

The calls of `DBConnection` that the driver can fail, and `HandleError`, to which they
pass a failure.  The driver is given by what its functions return.
-/

/-- `SQLRETURN` -/
abbrev SqlReturn := Int16

def sqlSuccess : SqlReturn := 0

def sqlSuccessWithInfo : SqlReturn := 1

def sqlNoData : SqlReturn := 100

def sqlError : SqlReturn := -1

/-- `SQLGetDiagRecW` for the statement, which is the driver's: for an index and a message
buffer, what it returns and the buffer after it. -/
abbrev Diagnostics := Int16 → List Char → SqlReturn × List Char

/-- The variables of the loop in `HandleError`, and what it has printed. -/
structure ErrorReport where
  index : Int16
  errMsg : List Char
  errorRet : SqlReturn
  printed : List (List Char)
deriving Repr, DecidableEq

def ErrorReport.start : ErrorReport where
  index := 1
  errMsg := []
  errorRet := 0
  printed := []

/-- One turn of the loop; `none` is a `break`. -/
def reportTurn (diagnostics : Diagnostics) (report : ErrorReport) : Option ErrorReport :=
  -- the source does not store what the driver returns: errorRet is what it was
  let errMsg := (diagnostics report.index report.errMsg).2
  if report.errorRet = sqlNoData then none
  else if report.errorRet ≠ sqlSuccess ∧ report.errorRet ≠ sqlSuccessWithInfo then none
  else
    some { report with
      errMsg := errMsg, printed := report.printed ++ [errMsg], index := report.index + 1 }

/-- The loop, with a bound on its turns: `none` when the bound runs out. -/
def reportLoop : Nat → Diagnostics → ErrorReport → Option (List (List Char))
  | 0, _, _ => none
  | turns + 1, diagnostics, report =>
      match reportTurn diagnostics report with
      | none => some report.printed
      | some next => reportLoop turns diagnostics next

/-- `DBConnection::HandleError`, with what it prints. -/
def handleError (turns : Nat) (diagnostics : Diagnostics) (ret : SqlReturn) :
    Option (List (List Char)) :=
  if ret = sqlSuccess then some [] else reportLoop turns diagnostics .start

/-- What a call gives its caller; `undefined` is the end of a function without a `return`. -/
inductive DbResult where
  | returns (value : Bool)
  | undefined
deriving Repr, DecidableEq

section Calls

variable (turns : Nat) (diagnostics : Diagnostics) (ret : SqlReturn)

/-- `DBConnection::Execute`, where `SQLExecDirectW` returns `ret`. -/
def execute (doHandleError : Bool) : Option DbResult :=
  if ret = sqlSuccess ∨ ret = sqlSuccessWithInfo then some (.returns true)
  else if doHandleError then (handleError turns diagnostics ret).map fun _ => .returns false
  else some (.returns false)

/-- `DBConnection::Fetch`, where `SQLFetch` returns `ret`.  The label `defalut` is not the
`default` of the switch. -/
def fetch : Option DbResult :=
  if ret = sqlSuccess ∨ ret = sqlSuccessWithInfo then some (.returns true)
  else if ret = sqlNoData then some (.returns false)
  else if ret = sqlError then (handleError turns diagnostics ret).map fun _ => .returns false
  else some .undefined

/-- What `BindParam` and `BindCol` do with the code that the driver returns. -/
def bound : Option DbResult :=
  if ret ≠ sqlSuccess ∧ ret ≠ sqlSuccessWithInfo then
    (handleError turns diagnostics ret).map fun _ => .returns false
  else some (.returns true)

/-- `DBConnection::BindParam`, where `SQLBindParameter` returns `ret`. -/
def bindParam : Option DbResult := bound turns diagnostics ret

/-- `DBConnection::BindCol`, where `SQLBindCol` returns `ret`. -/
def bindCol : Option DbResult := bound turns diagnostics ret

end Calls

/-- The calls that report an error. -/
inductive DbCall where
  | execute (doHandleError : Bool)
  | fetch
  | bindParam
  | bindCol
deriving Repr, DecidableEq

namespace DbCall

def result (turns : Nat) (diagnostics : Diagnostics) (ret : SqlReturn) : DbCall → Option DbResult
  | .execute doHandleError => Core.execute turns diagnostics ret doHandleError
  | .fetch => Core.fetch turns diagnostics ret
  | .bindParam => Core.bindParam turns diagnostics ret
  | .bindCol => Core.bindCol turns diagnostics ret

/-- The code says that the call has failed; that there is no row is not a failure of `Fetch`. -/
def Fails (ret : SqlReturn) (call : DbCall) : Prop :=
  ret ≠ sqlSuccess ∧ ret ≠ sqlSuccessWithInfo ∧ (call = .fetch → ret ≠ sqlNoData)

instance (ret : SqlReturn) (call : DbCall) : Decidable (call.Fails ret) :=
  inferInstanceAs (Decidable (_ ∧ _))

end DbCall

theorem bound_accepted (accepted : ret = sqlSuccess ∨ ret = sqlSuccessWithInfo) :
    bound turns diagnostics ret = some (.returns true) := by
  rw [bound, if_neg]
  rintro ⟨unsuccessful, uninformed⟩
  exact accepted.elim unsuccessful uninformed

/-- While `errorRet` is a success, every turn prints and leads to another one. -/
theorem reportLoop_endless {report : ErrorReport} (turns : Nat) (diagnostics : Diagnostics)
    (succeeds : report.errorRet = sqlSuccess) : reportLoop turns diagnostics report = none := by
  induction turns generalizing report with
  | zero => rfl
  | succ turns ih =>
      have continues : ∃ next, reportTurn diagnostics report = some next ∧
          next.errorRet = sqlSuccess := by
        simp [reportTurn, succeeds, sqlSuccess, sqlNoData]
      obtain ⟨next, turned, succeedsNext⟩ := continues
      simp only [reportLoop, turned, ih succeedsNext]

/-- `errorRet` starts as a success and is never assigned. -/
theorem handleError_endless (turns : Nat) (diagnostics : Diagnostics) (error : ret ≠ sqlSuccess) :
    handleError turns diagnostics ret = none := by
  rw [handleError, if_neg error]
  exact reportLoop_endless turns diagnostics rfl

/-- `HandleError` ends for no error code, so a call that has failed returns only where it
does not report the error. -/
theorem error_report_ends_iff (diagnostics : Diagnostics) (ret : SqlReturn) (call : DbCall) :
    ((∃ turns printed, handleError turns diagnostics ret = some printed) ↔ ret = sqlSuccess) ∧
      (call.Fails ret →
        ((∃ turns, call.result turns diagnostics ret = some (.returns false)) ↔
          call = .execute false)) := by
  refine ⟨⟨?_, ?_⟩, ?_⟩
  · rintro ⟨turns, printed, ended⟩
    by_contra error
    rw [handleError_endless turns diagnostics error] at ended
    contradiction
  · intro success
    exact ⟨0, [], by rw [handleError, if_pos success]⟩
  · rintro ⟨unsuccessful, uninformed, rows⟩
    have endless := fun turns => handleError_endless turns diagnostics unsuccessful
    cases call with
    | execute doHandleError =>
        cases doHandleError <;> simp [DbCall.result, execute, unsuccessful, uninformed, endless]
    | fetch =>
        have row := rows rfl
        by_cases error : ret = sqlError
        · simp [DbCall.result, fetch, unsuccessful, uninformed, row, endless]
        · simp [DbCall.result, fetch, unsuccessful, uninformed, row, error]
    | bindParam => simp [DbCall.result, bindParam, bound, unsuccessful, uninformed, endless]
    | bindCol => simp [DbCall.result, bindCol, bound, unsuccessful, uninformed, endless]

/-- A driver with one record. -/
def oneRecord (message : List Char) : Diagnostics := fun index errMsg =>
  if index = 1 then (sqlSuccess, message) else (sqlNoData, errMsg)

/-- A query that fails with one record. -/
theorem error_report_ends_unreported :
    DbCall.Fails sqlError (.execute false) ∧
      ((∃ turns, (DbCall.execute false).result turns (oneRecord ['l', 'o', 's', 't']) sqlError =
        some (.returns false)) ↔
        DbCall.execute false = .execute false) :=
  ⟨by decide, (error_report_ends_iff (oneRecord ['l', 'o', 's', 't']) sqlError
    (.execute false)).2 (by decide)⟩

/-- `Execute` with its default argument, and `Fetch`, on a statement with one record. -/
theorem error_report_endless :
    (¬ ∃ turns printed, handleError turns (oneRecord ['l', 'o', 's', 't']) sqlError =
      some printed) ∧
      (¬ ∃ turns result, execute turns (oneRecord ['l', 'o', 's', 't']) sqlError true =
        some result) ∧
      ¬ ∃ turns result, fetch turns (oneRecord ['l', 'o', 's', 't']) sqlError = some result := by
  have endless : ∀ turns, handleError turns (oneRecord ['l', 'o', 's', 't']) sqlError = none :=
    fun turns => handleError_endless turns _ (by decide)
  refine ⟨?_, ?_, ?_⟩
  · simp [endless]
  · rintro ⟨turns, result, returned⟩
    rw [execute, if_neg (by decide), if_pos rfl, endless] at returned
    contradiction
  · rintro ⟨turns, result, returned⟩
    rw [fetch, if_neg (by decide), if_neg (by decide), if_pos rfl, endless] at returned
    contradiction

end ChattingProgram.Core

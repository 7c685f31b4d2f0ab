import IsomorphicDb.DataDefinition.Catalog

/-! The executor that applies a system operation, skipping sub-programs as `skip_steps_if` says. -/

namespace IsomorphicDb.DataDefinition.Catalog

/-- Modelled from the spec: the errors that stop an operation. -/
inductive ExecutionError
  | objectAlreadyExists (systemObject : SystemObject) (objectName : List String)
  | objectDoesNotExist (systemObject : SystemObject) (objectName : List String)
  | hasDependants (systemObject : SystemObject) (objectName : List String)
  | stepFailed (step : Step)
  deriving DecidableEq, Repr

inductive Outcome
  | applied (c : State)
  | skipped
  | failed (error : ExecutionError)
  deriving DecidableEq, Repr

def State.observe (c : State) (systemObject : SystemObject) (objectName : List String) : ObjectState :=
  if c.holds systemObject objectName then .«exists» else .notExists

/-- Modelled from the spec: a failed existence check is a skip when `skipStepsIf` names the
state it observed, and otherwise reports that state; a failed dependants check reports
the dependants. -/
def failure (skipStepsIf : Option ObjectState) (c : State) : Step → Outcome
  | .checkExistence systemObject objectName =>
    if skipStepsIf = some (c.observe systemObject objectName) then .skipped
    else if c.holds systemObject objectName then .failed (.objectAlreadyExists systemObject objectName)
    else .failed (.objectDoesNotExist systemObject objectName)
  | .checkDependants systemObject objectName => .failed (.hasDependants systemObject objectName)
  | step => .failed (.stepFailed step)

/-- Modelled from the spec: the steps of one sub-program in order, up to the first that
fails. -/
def applySteps (kind : Kind) (skipStepsIf : Option ObjectState) : State → List Step → Outcome
  | c, [] => .applied c
  | c, step :: steps =>
    match exec kind c step with
    | some c' => applySteps kind skipStepsIf c' steps
    | none => failure skipStepsIf c step

def Outcome.toExcept (c : State) : Outcome → Except ExecutionError State
  | .applied c' => .ok c'
  | .skipped => .ok c
  | .failed error => .error error

/-- Modelled from the spec: the sub-programs of an operation, in order. -/
def applyOperation (op : SystemOperation) (c : State) : Except ExecutionError State :=
  op.steps.foldlM (fun c steps => (applySteps op.kind op.skipStepsIf c steps).toExcept c) c

section Lemmas

variable {kind : Kind} {skipStepsIf : Option ObjectState} {c c' : State} {step : Step}
  {steps : List Step}

@[simp] lemma applySteps_nil : applySteps kind skipStepsIf c [] = .applied c := rfl

lemma applySteps_cons_of_exec (h : exec kind c step = some c') :
    applySteps kind skipStepsIf c (step :: steps) = applySteps kind skipStepsIf c' steps := by
  simp [applySteps, h]

lemma applySteps_cons_of_not_exec (h : exec kind c step = none) :
    applySteps kind skipStepsIf c (step :: steps) = failure skipStepsIf c step := by
  simp [applySteps, h]

lemma failure_ne_applied : failure skipStepsIf c step ≠ .applied c' := by
  cases step <;> simp only [failure, ne_eq] <;> (try split_ifs) <;> nofun

lemma applySteps_eq_applied {p : List Step} :
    applySteps kind skipStepsIf c p = .applied c' ↔ run kind c p = some c' := by
  induction p generalizing c with
  | nil => simp [run, eq_comm]
  | cons step p ih =>
    cases h : exec kind c step with
    | some c₁ => rw [applySteps_cons_of_exec h, ih]; simp [run, h]
    | none =>
      rw [applySteps_cons_of_not_exec h]
      simp only [run, h, Option.none_bind, reduceCtorEq, iff_false]
      exact failure_ne_applied

@[simp] lemma failure_checkExistence (systemObject : SystemObject) (objectName : List String) :
    failure skipStepsIf c (.checkExistence systemObject objectName) =
      if skipStepsIf = some (c.observe systemObject objectName) then .skipped
      else if c.holds systemObject objectName then .failed (.objectAlreadyExists systemObject objectName)
      else .failed (.objectDoesNotExist systemObject objectName) := rfl

@[simp] lemma failure_checkDependants (systemObject : SystemObject) (objectName : List String) :
    failure skipStepsIf c (.checkDependants systemObject objectName) =
      .failed (.hasDependants systemObject objectName) := rfl

@[simp] lemma toExcept_applied : (Outcome.applied c').toExcept c = .ok c' := rfl
@[simp] lemma toExcept_skipped : Outcome.skipped.toExcept c = .ok c := rfl
@[simp] lemma toExcept_failed (error : ExecutionError) : (Outcome.failed error).toExcept c = .error error :=
  rfl

end Lemmas

end IsomorphicDb.DataDefinition.Catalog

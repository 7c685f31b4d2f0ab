import IsomorphicDb.Definition

/-! `ReadQueryExecutor::execute`. -/

namespace IsomorphicDb.ReadQuery

open Definition

/-- Missing from src/ and the spec: the fields of a select plan that `execute` reads. -/
structure SelectPlan where
  table : FullTableName
  columns : List String

/-- Missing from src/ and the spec: the two reads of a table that `execute` calls. -/
structure SqlTable (Data : Type) where
  select : Data
  selectWithColumns : List String → Except String Data

/-- Missing from src/ and the spec: the variant of the result that `execute` builds. -/
inductive QueryExecution (Data : Type)
  | selected (data : Data)
  deriving DecidableEq

/-- Missing from src/ and the spec: the variant of the error that `execute` builds. -/
inductive QueryExecutionError
  | schemaDoesNotExist (name : String)
  deriving DecidableEq

variable {Data : Type}

def execute (database : FullTableName → SqlTable Data) (select : SelectPlan) :
    Except QueryExecutionError (QueryExecution Data) :=
  if select.columns.isEmpty then .ok (.selected (database select.table).select)
  else
    match (database select.table).selectWithColumns select.columns with
    | .ok data => .ok (.selected data)
    | .error columnName => .error (.schemaDoesNotExist columnName)

end IsomorphicDb.ReadQuery

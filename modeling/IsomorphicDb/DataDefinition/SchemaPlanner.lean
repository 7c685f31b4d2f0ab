import IsomorphicDb.DataDefinition.Operations

/-! `SystemSchemaPlanner::schema_change_plan` and its four templates. -/

namespace IsomorphicDb.DataDefinition.SystemSchemaPlanner

open Types Definition

def forSchema (cascade : Bool) (schemaName : SchemaName) : List Step :=
  [.checkExistence .schema [schemaName.asRef],
    if cascade then .removeDependants .schema [schemaName.asRef]
    else .checkDependants .schema [schemaName.asRef],
    .removeRecord (.schema schemaName.asRef),
    .removeFolder schemaName.asRef (!cascade)]

def forTable (fullTableName : FullTableName) : List Step :=
  [.checkExistence .schema [fullTableName.schema],
    .checkExistence .table [fullTableName.schema, fullTableName.table],
    .removeColumns fullTableName.schema fullTableName.table,
    .removeRecord (.table fullTableName.schema fullTableName.table),
    .removeFile fullTableName.schema fullTableName.table]

def columnRecord (fullTableName : FullTableName) (column : ColumnInfo) : Step :=
  .createRecord (.column fullTableName.schema fullTableName.table column.name column.sqlType)

def schemaChangePlan : SchemaChange → SystemOperation
  | .createSchema ⟨schemaName, ifNotExists⟩ =>
    { kind := .create .schema
      skipStepsIf := if ifNotExists then some .«exists» else none
      steps := [[.checkExistence .schema [schemaName.asRef], .createFolder schemaName.asRef,
        .createRecord (.schema schemaName.asRef)]] }
  | .dropSchemas ⟨schemaNames, cascade, ifExists⟩ =>
    { kind := .drop .schema
      skipStepsIf := if ifExists then some .notExists else none
      steps := schemaNames.foldl (fun steps schemaName => steps ++ [forSchema cascade schemaName]) [] }
  | .createTable ⟨fullTableName, columnDefs, ifNotExists⟩ =>
    { kind := .create .table
      skipStepsIf := if ifNotExists then some .«exists» else none
      steps := [columnDefs.foldl (fun steps column => steps ++ [columnRecord fullTableName column])
        [.checkExistence .schema [fullTableName.schema],
          .checkExistence .table [fullTableName.schema, fullTableName.table],
          .createFile fullTableName.schema fullTableName.table,
          .createRecord (.table fullTableName.schema fullTableName.table)]] }
  | .dropTables ⟨fullTableNames, _, ifExists⟩ =>
    { kind := .drop .table
      skipStepsIf := if ifExists then some .notExists else none
      steps := fullTableNames.foldl (fun steps fullTableName => steps ++ [forTable fullTableName]) [] }

lemma foldl_push {α β : Type} (f : α → β) (init : List β) (xs : List α) :
    xs.foldl (fun acc x => acc ++ [f x]) init = init ++ xs.map f := by
  induction xs generalizing init with
  | nil => simp
  | cons x xs ih => simp [ih]

section Arms

variable (schemaName : SchemaName) (schemaNames : List SchemaName) (fullTableName : FullTableName)
  (fullTableNames : List FullTableName) (columnDefs : List ColumnInfo) (flag cascade : Bool)

lemma plan_createSchema : schemaChangePlan (.createSchema ⟨schemaName, flag⟩) =
    ⟨.create .schema, if flag then some .«exists» else none,
      [[.checkExistence .schema [schemaName.asRef], .createFolder schemaName.asRef,
        .createRecord (.schema schemaName.asRef)]]⟩ := rfl

lemma plan_dropSchemas : schemaChangePlan (.dropSchemas ⟨schemaNames, cascade, flag⟩) =
    ⟨.drop .schema, if flag then some .notExists else none, schemaNames.map (forSchema cascade)⟩ := by
  simp [schemaChangePlan, foldl_push]

-- the plan of the repository's test `drop_single_schema`
example : schemaChangePlan (.dropSchemas ⟨[⟨"schema"⟩], false, false⟩) =
    ⟨.drop .schema, none, [[.checkExistence .schema ["schema"], .checkDependants .schema ["schema"],
      .removeRecord (.schema "schema"), .removeFolder "schema" true]]⟩ := by
  decide

lemma plan_createTable : schemaChangePlan (.createTable ⟨fullTableName, columnDefs, flag⟩) =
    ⟨.create .table, if flag then some .«exists» else none,
      [[.checkExistence .schema [fullTableName.schema],
        .checkExistence .table [fullTableName.schema, fullTableName.table],
        .createFile fullTableName.schema fullTableName.table,
        .createRecord (.table fullTableName.schema fullTableName.table)] ++
        columnDefs.map (columnRecord fullTableName)]⟩ := by
  simp [schemaChangePlan, foldl_push]

lemma plan_dropTables : schemaChangePlan (.dropTables ⟨fullTableNames, cascade, flag⟩) =
    ⟨.drop .table, if flag then some .notExists else none, fullTableNames.map forTable⟩ := by
  simp [schemaChangePlan, foldl_push]

end Arms

lemma mem_steps {s : SchemaChange} {p : List Step} (hp : p ∈ (schemaChangePlan s).steps) :
    (∃ schemaName flag, s = .createSchema ⟨schemaName, flag⟩ ∧
      p = [.checkExistence .schema [schemaName.asRef], .createFolder schemaName.asRef,
        .createRecord (.schema schemaName.asRef)]) ∨
    (∃ schemaNames cascade flag schemaName, s = .dropSchemas ⟨schemaNames, cascade, flag⟩ ∧
      schemaName ∈ schemaNames ∧ p = forSchema cascade schemaName) ∨
    (∃ fullTableName columnDefs flag, s = .createTable ⟨fullTableName, columnDefs, flag⟩ ∧
      p = [.checkExistence .schema [fullTableName.schema],
        .checkExistence .table [fullTableName.schema, fullTableName.table],
        .createFile fullTableName.schema fullTableName.table,
        .createRecord (.table fullTableName.schema fullTableName.table)] ++
        columnDefs.map (columnRecord fullTableName)) ∨
    (∃ fullTableNames cascade flag fullTableName, s = .dropTables ⟨fullTableNames, cascade, flag⟩ ∧
      fullTableName ∈ fullTableNames ∧ p = forTable fullTableName) := by
  rcases s with ⟨schemaName, flag⟩ | ⟨schemaNames, cascade, flag⟩ | ⟨fullTableName, columnDefs, flag⟩ |
    ⟨fullTableNames, cascade, flag⟩
  · rw [plan_createSchema, List.mem_singleton] at hp
    exact .inl ⟨_, _, rfl, hp⟩
  · obtain ⟨schemaName, hn, rfl⟩ := List.mem_map.mp (plan_dropSchemas .. ▸ hp)
    exact .inr (.inl ⟨_, _, _, _, rfl, hn, rfl⟩)
  · rw [plan_createTable, List.mem_singleton] at hp
    exact .inr (.inr (.inl ⟨_, _, _, rfl, hp⟩))
  · obtain ⟨fullTableName, hn, rfl⟩ := List.mem_map.mp (plan_dropTables .. ▸ hp)
    exact .inr (.inr (.inr ⟨_, _, _, _, rfl, hn, rfl⟩))

end IsomorphicDb.DataDefinition.SystemSchemaPlanner

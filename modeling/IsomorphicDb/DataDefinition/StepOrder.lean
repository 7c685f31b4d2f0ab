import IsomorphicDb.DataDefinition.SchemaPlanner

/-! The order of the steps inside each planned sub-program. -/

namespace IsomorphicDb.DataDefinition.SystemSchemaPlanner

open Types Definition

structure SafeOrder (s : SchemaChange) (p : List Step) : Prop where
  checks_first : Precedes Step.isCheckExistence (fun step => !step.isCheckExistence) p
  storage_first : s.isCreate → p.countP Step.isStorageCreation = 1 ∧
    Precedes Step.isStorageCreation Step.isCreateRecord p
  storage_last : s.isDrop → p.countP Step.isStorageRemoval = 1 ∧
    (∃ last, p.getLast? = some last ∧ last.isStorageRemoval) ∧
    Precedes Step.isCatalogStep Step.isStorageRemoval p

theorem schema_change_plan_step_order (s : SchemaChange) (p : List Step)
    (hp : p ∈ (schemaChangePlan s).steps) : SafeOrder s p := by
  rcases mem_steps hp with ⟨n, _, rfl, rfl⟩ | ⟨_, c, _, n, rfl, -, rfl⟩ | ⟨f, cols, _, rfl, rfl⟩ |
    ⟨_, _, _, f, rfl, -, rfl⟩
  case inl =>
    refine ⟨precedes_append [_] [_, _] ?_ ?_, fun _ => ⟨rfl, precedes_append [_, _] [_] ?_ ?_⟩, nofun⟩ <;>
      simp [Step.isCheckExistence, Step.isCreateRecord, Step.isStorageCreation]
  case inr.inl =>
    refine ⟨precedes_append [_] [_, _, _] ?_ ?_, nofun,
      fun _ => ⟨?_, ⟨_, rfl, rfl⟩, precedes_append [_, _, _] [_] ?_ ?_⟩⟩ <;>
      cases c <;>
        simp [forSchema, List.countP_cons, Step.isCheckExistence, Step.isStorageRemoval, Step.isCatalogStep]
  case inr.inr.inl =>
    refine ⟨precedes_append [_, _] (_ :: _ :: _) ?_ ?_,
      fun _ => ⟨?_, precedes_append [_, _, _] (_ :: _) ?_ ?_⟩, nofun⟩ <;>
      simp [List.countP_eq_zero, Step.isCheckExistence, Step.isCreateRecord, Step.isStorageCreation,
        columnRecord]
  case inr.inr.inr =>
    refine ⟨precedes_append [_, _] [_, _, _] ?_ ?_, nofun,
      fun _ => ⟨rfl, ⟨_, rfl, rfl⟩, precedes_append [_, _, _, _] [_] ?_ ?_⟩⟩ <;>
      simp [Step.isCheckExistence, Step.isStorageRemoval, Step.isCatalogStep]

theorem schema_change_plan_step_order_drop_two :
    forSchema true ⟨"schema"⟩ ∈
        (schemaChangePlan (.dropSchemas ⟨[⟨"schema"⟩, ⟨"other_schema"⟩], true, false⟩)).steps ∧
      SafeOrder (.dropSchemas ⟨[⟨"schema"⟩, ⟨"other_schema"⟩], true, false⟩) (forSchema true ⟨"schema"⟩) :=
  ⟨by decide, schema_change_plan_step_order _ _ (by decide)⟩

theorem create_table_column_records (fullTableName : FullTableName) (columnDefs : List ColumnInfo)
    (ifNotExists : Bool) :
    (schemaChangePlan (.createTable ⟨fullTableName, columnDefs, ifNotExists⟩)).steps.length = 1 ∧
    ∀ p ∈ (schemaChangePlan (.createTable ⟨fullTableName, columnDefs, ifNotExists⟩)).steps,
      p.filter Step.isColumnRecord = columnDefs.map (fun column =>
        .createRecord (.column fullTableName.schema fullTableName.table column.name column.sqlType)) ∧
      .createRecord (.table fullTableName.schema fullTableName.table) ∈ p ∧
      Precedes (· == .createRecord (.table fullTableName.schema fullTableName.table))
        Step.isColumnRecord p := by
  rw [plan_createTable]
  refine ⟨rfl, fun p hp => ?_⟩
  obtain rfl := List.mem_singleton.mp hp
  refine ⟨?_, by simp, precedes_append [_, _, _, _] _ (by simp [Step.isColumnRecord])
    (by simp [columnRecord])⟩
  simp [List.filter_map, Function.comp_def, Step.isColumnRecord, columnRecord]

theorem drop_cascade_semantics :
    (∀ (schemaNames : List SchemaName) (cascade ifExists : Bool),
      List.Forall₂ (fun p (schemaName : SchemaName) =>
          p[1]? = some (if cascade then .removeDependants .schema [schemaName.asRef]
            else .checkDependants .schema [schemaName.asRef]) ∧
          p.getLast? = some (.removeFolder schemaName.asRef (!cascade)))
        (schemaChangePlan (.dropSchemas ⟨schemaNames, cascade, ifExists⟩)).steps schemaNames) ∧
    ∀ (fullTableNames : List FullTableName) (ifExists : Bool),
      schemaChangePlan (.dropTables ⟨fullTableNames, true, ifExists⟩) =
        schemaChangePlan (.dropTables ⟨fullTableNames, false, ifExists⟩) ∧
      ∀ p ∈ (schemaChangePlan (.dropTables ⟨fullTableNames, true, ifExists⟩)).steps,
        ∀ step ∈ p, step.isDependantsStep = false := by
  refine ⟨fun schemaNames cascade _ => ?_, fun fullTableNames _ => ⟨rfl, ?_⟩⟩
  · rw [plan_dropSchemas, List.forall₂_map_left_iff, List.forall₂_same]
    intro schemaName _
    cases cascade <;> exact ⟨rfl, rfl⟩
  · simp [plan_dropTables, forTable, Step.isDependantsStep]

end IsomorphicDb.DataDefinition.SystemSchemaPlanner

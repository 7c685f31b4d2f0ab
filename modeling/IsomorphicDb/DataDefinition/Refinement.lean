import IsomorphicDb.DataDefinition.CrashSafety
import IsomorphicDb.DataDefinition.Intent

/-! On a tidy catalog the executor applying a planned operation does what the change means. -/

namespace IsomorphicDb.DataDefinition.Catalog

open Definition SystemSchemaPlanner

section Templates

variable {c : State}

lemma run_columns (kind : Kind) (fullTableName : FullTableName) (columnDefs : List ColumnInfo) (c : State) :
    run kind c (columnDefs.map (columnRecord fullTableName)) =
      some { c with records := (columnDefs.map fun column =>
        Record.column fullTableName.schema fullTableName.table column.name column.sqlType).reverse ++ c.records } := by
  induction columnDefs generalizing c with
  | nil => rfl
  | cons column columnDefs ih => simp [run, columnRecord, ih]

lemma applySteps_createSchema (ifNotExists : Bool) (schemaName : String) :
    (applySteps (.create .schema) (if ifNotExists then some .«exists» else none) c
      [.checkExistence .schema [schemaName], .createFolder schemaName,
        .createRecord (.schema schemaName)]).toExcept c =
      Intent.createSchema ifNotExists c schemaName := by
  by_cases hs : Record.schema schemaName ∈ c.records <;> cases ifNotExists <;>
    simp [applySteps, Intent.createSchema, State.observe, expectPresent, State.addSchema, hs]

lemma run_forSchema_cascade (schemaName : SchemaName) (hs : Record.schema schemaName.asRef ∈ c.records) :
    run (.drop .schema) c (forSchema true schemaName) = some (c.removeObject [schemaName.asRef]) := by
  simp only [forSchema, ite_true, run, exec_checkExistence, holds_schema, hs, expectPresent, exec_removeDependants,
    exec_removeRecord, exec_removeFolder, decide_True, Option.some_bind, Bool.not_true, Bool.false_and,
    Bool.false_eq_true, ite_false, List.filter_filter, Option.some.injEq, State.removeObject, State.mk.injEq]
  refine ⟨List.filter_congr fun x _ => ?_, List.filter_congr fun x _ => ?_, List.filter_congr fun x _ => ?_⟩
  · simp [List.isPrefixOf, bne, Bool.beq_comm]
  · simp [List.isPrefixOf, bne, Bool.beq_comm]
  · cases x <;> simp [Record.objectPath, List.isPrefixOf, bne, Bool.beq_comm]

lemma run_forSchema_restrict (schemaName : SchemaName)
    (hs : Record.schema schemaName.asRef ∈ c.records)
    (hd : ∀ record ∈ c.records, record.dependsOn [schemaName.asRef] = false)
    (hfiles : ∀ file ∈ c.files, file.1 ≠ schemaName.asRef) :
    run (.drop .schema) c (forSchema false schemaName) = some (c.removeObject [schemaName.asRef]) := by
  have hany : c.records.any (·.dependsOn [schemaName.asRef]) = false := List.any_eq_false.mpr (by simpa using hd)
  have hfiles : c.files.any (·.1 == schemaName.asRef) = false := List.any_eq_false.mpr (by simpa using hfiles)
  simp only [forSchema, ite_false, Bool.false_eq_true, run, exec_checkExistence, holds_schema, hs, expectPresent,
    exec_checkDependants, hany, exec_removeRecord, exec_removeFolder, decide_True, ite_true, Option.some_bind,
    Bool.not_false, Bool.true_and, hfiles, Option.some.injEq, State.removeObject, State.mk.injEq]
  refine ⟨List.filter_congr fun x _ => ?_, List.filter_congr fun x _ => ?_, List.filter_congr fun x hx => ?_⟩
  · simp [List.isPrefixOf, bne, Bool.beq_comm]
  · simp [List.isPrefixOf, bne, Bool.beq_comm]
  · have := hd x hx
    cases x <;> simp [Record.dependsOn, Record.objectPath, List.isPrefixOf, bne, Bool.beq_comm] at this ⊢ <;>
      exact this

lemma applySteps_forSchema (hc : Tidy c) (cascade ifExists : Bool) (schemaName : SchemaName) :
    (applySteps (.drop .schema) (if ifExists then some .notExists else none) c
      (forSchema cascade schemaName)).toExcept c =
      Intent.dropSchema cascade ifExists c schemaName.asRef := by
  by_cases hs : Record.schema schemaName.asRef ∈ c.records
  · cases cascade with
    | true =>
      rw [applySteps_eq_applied.mpr (run_forSchema_cascade schemaName hs)]
      simp [Intent.dropSchema, hs]
    | false =>
      by_cases hd : c.records.any (·.dependsOn [schemaName.asRef])
      · simp [forSchema, applySteps, hs, hd, expectPresent, Intent.dropSchema, hasDependants_eq]
      · have hnone : ∀ record ∈ c.records, record.dependsOn [schemaName.asRef] = false := by simpa using hd
        have hfiles : ∀ file ∈ c.files, file.1 ≠ schemaName.asRef := fun file hf e => by
          simpa [e] using hnone _ (hc.file_table file.1 file.2 hf)
        rw [applySteps_eq_applied.mpr (run_forSchema_restrict schemaName hs hnone hfiles)]
        simp [Intent.dropSchema, hs, hasDependants_eq, hd]
  · cases ifExists <;> simp [forSchema, applySteps, hs, expectPresent, State.observe, Intent.dropSchema]

lemma run_forTable (fullTableName : FullTableName) (hs : Record.schema fullTableName.schema ∈ c.records)
    (ht : Record.table fullTableName.schema fullTableName.table ∈ c.records) :
    run (.drop .table) c (forTable fullTableName) =
      some (c.removeObject [fullTableName.schema, fullTableName.table]) := by
  simp only [forTable, run, exec_checkExistence, holds_schema, holds_table, hs, ht, expectPresent,
    exec_removeColumns, exec_removeRecord, exec_removeFile, decide_True, ite_true, Option.some_bind,
    List.filter_filter, Option.some.injEq, State.removeObject, State.mk.injEq]
  refine ⟨(List.filter_eq_self.mpr fun x _ => ?_).symm, List.filter_congr fun x _ => ?_,
    List.filter_congr fun x _ => ?_⟩
  · simp [List.isPrefixOf]
  all_goals rw [Bool.eq_iff_iff]
  · simp [List.isPrefixOf, Prod.ext_iff, @eq_comm _ fullTableName.schema, @eq_comm _ fullTableName.table,
      imp_iff_not_or]
  · cases x <;> simp [Record.objectPath, List.isPrefixOf, @eq_comm _ fullTableName.schema,
      @eq_comm _ fullTableName.table, imp_iff_not_or]

lemma applySteps_forTable (ifExists : Bool) (fullTableName : FullTableName) :
    (applySteps (.drop .table) (if ifExists then some .notExists else none) c
      (forTable fullTableName)).toExcept c =
      Intent.dropTable ifExists c fullTableName.schema fullTableName.table := by
  by_cases hs : Record.schema fullTableName.schema ∈ c.records
  · by_cases ht : Record.table fullTableName.schema fullTableName.table ∈ c.records
    · rw [applySteps_eq_applied.mpr (run_forTable fullTableName hs ht)]
      simp [Intent.dropTable, hs, ht]
    · cases ifExists <;> simp [forTable, applySteps, hs, ht, expectPresent, State.observe, Intent.dropTable]
  · cases ifExists <;> simp [forTable, applySteps, hs, expectPresent, State.observe, Intent.dropTable]

lemma run_createTable_of_new (fullTableName : FullTableName) (columnDefs : List ColumnInfo)
    (hs : Record.schema fullTableName.schema ∈ c.records)
    (ht : Record.table fullTableName.schema fullTableName.table ∉ c.records) :
    run (.create .table) c
      ([.checkExistence .schema [fullTableName.schema],
        .checkExistence .table [fullTableName.schema, fullTableName.table],
        .createFile fullTableName.schema fullTableName.table,
        .createRecord (.table fullTableName.schema fullTableName.table)] ++
        columnDefs.map (columnRecord fullTableName)) =
      some (c.addTable fullTableName.schema fullTableName.table (columnDefs.map fun column =>
        .column fullTableName.schema fullTableName.table column.name column.sqlType)) := by
  simp [run, hs, ht, expectPresent, run_columns, State.addTable]

lemma applySteps_createTable (ifNotExists : Bool) (fullTableName : FullTableName)
    (columnDefs : List ColumnInfo) :
    (applySteps (.create .table) (if ifNotExists then some .«exists» else none) c
      ([.checkExistence .schema [fullTableName.schema],
        .checkExistence .table [fullTableName.schema, fullTableName.table],
        .createFile fullTableName.schema fullTableName.table,
        .createRecord (.table fullTableName.schema fullTableName.table)] ++
        columnDefs.map (columnRecord fullTableName))).toExcept c =
      Intent.createTable ifNotExists c fullTableName.schema fullTableName.table
        (columnDefs.map fun column =>
          .column fullTableName.schema fullTableName.table column.name column.sqlType) := by
  by_cases hs : Record.schema fullTableName.schema ∈ c.records
  · by_cases ht : Record.table fullTableName.schema fullTableName.table ∈ c.records
    · cases ifNotExists <;> simp [applySteps, hs, ht, expectPresent, State.observe, Intent.createTable]
    · rw [applySteps_eq_applied.mpr (run_createTable_of_new fullTableName columnDefs hs ht)]
      simp [Intent.createTable, hs, ht]
  · cases ifNotExists <;> simp [applySteps, hs, expectPresent, State.observe, Intent.createTable]

end Templates

lemma applyOperation_eq_intent (s : SchemaChange) (c : State) (hc : Tidy c) :
    applyOperation (schemaChangePlan s) c = intent s c := by
  rcases s with ⟨schemaName, ifNotExists⟩ | ⟨schemaNames, cascade, ifExists⟩ |
    ⟨fullTableName, columnDefs, ifNotExists⟩ | ⟨fullTableNames, cascade, ifExists⟩
  · simp only [applyOperation, plan_createSchema, List.foldlM_cons, List.foldlM_nil, bind_pure,
      applySteps_createSchema, intent]
  · rw [applyOperation, plan_dropSchemas, List.foldlM_map]
    exact foldlM_eq_of_invariant Tidy (fun _ _ hc => applySteps_forSchema hc ..)
      (fun _ _ _ hc h => hc.dropSchema h) _ _ hc
  · simp only [applyOperation, plan_createTable, List.foldlM_cons, List.foldlM_nil, bind_pure,
      applySteps_createTable, intent]
  · rw [applyOperation, plan_dropTables, List.foldlM_map]
    exact foldlM_eq_of_invariant Tidy (fun _ _ _ => applySteps_forTable ..)
      (fun _ _ _ hc h => hc.dropTable h) _ _ hc

theorem schema_changes_meet_intent (changes : List SchemaChange) (c : State) (hc : Tidy c) :
    changes.foldlM (fun c s => applyOperation (schemaChangePlan s) c) c =
      changes.foldlM (fun c s => intent s c) c :=
  foldlM_eq_of_invariant Tidy (fun c s hc => applyOperation_eq_intent s c hc)
    (fun _ _ _ hc h => hc.intent h) changes c hc

theorem schema_changes_meet_intent_session :
    Tidy ⟨[], [], []⟩ ∧
      [.createSchema ⟨⟨"schema"⟩, false⟩,
          .createTable ⟨⟨"schema", "table"⟩, [⟨"col", .bool⟩], false⟩,
          .dropSchemas ⟨[⟨"schema"⟩], false, false⟩].foldlM
          (fun c s => applyOperation (schemaChangePlan s) c) ⟨[], [], []⟩ =
        [.createSchema ⟨⟨"schema"⟩, false⟩,
          .createTable ⟨⟨"schema", "table"⟩, [⟨"col", .bool⟩], false⟩,
          .dropSchemas ⟨[⟨"schema"⟩], false, false⟩].foldlM (fun c s => intent s c) ⟨[], [], []⟩ :=
  have hc : Tidy ⟨[], [], []⟩ := ⟨⟨by simp, by simp, by simp, by simp, by simp⟩, by simp⟩
  ⟨hc, schema_changes_meet_intent _ _ hc⟩

theorem schema_change_keeps_catalog_tidy (s : SchemaChange) (c c' : State) (hc : Tidy c)
    (h : applyOperation (schemaChangePlan s) c = .ok c') : Tidy c' :=
  hc.intent (applyOperation_eq_intent s c hc ▸ h)

theorem schema_change_keeps_catalog_tidy_create_table :
    Tidy ⟨["schema"], [], [.schema "schema"]⟩ ∧
      applyOperation (schemaChangePlan (.createTable ⟨⟨"schema", "table"⟩, [⟨"col", .bool⟩], false⟩))
          ⟨["schema"], [], [.schema "schema"]⟩ =
        .ok ⟨["schema"], [("schema", "table")],
          [.column "schema" "table" "col" .bool, .table "schema" "table", .schema "schema"]⟩ ∧
      Tidy ⟨["schema"], [("schema", "table")],
          [.column "schema" "table" "col" .bool, .table "schema" "table", .schema "schema"]⟩ :=
  have hc : Tidy ⟨["schema"], [], [.schema "schema"]⟩ :=
    ⟨⟨by simp, by simp, by simp, by simp, by simp⟩, by simp⟩
  have h : applyOperation (schemaChangePlan (.createTable ⟨⟨"schema", "table"⟩, [⟨"col", .bool⟩], false⟩))
      ⟨["schema"], [], [.schema "schema"]⟩ =
      .ok ⟨["schema"], [("schema", "table")],
        [.column "schema" "table" "col" .bool, .table "schema" "table", .schema "schema"]⟩ := by decide
  ⟨hc, h, schema_change_keeps_catalog_tidy _ _ _ hc h⟩

theorem orphan_file_blocks_drop_schema (c : State) (schemaName : SchemaName) (tableName : String)
    (ifExists : Bool) (hs : .schema schemaName.asRef ∈ c.records)
    (hd : ∀ record ∈ c.records, record.dependsOn [schemaName.asRef] = false)
    (hf : (schemaName.asRef, tableName) ∈ c.files) :
    applySteps (.drop .schema) (if ifExists then some .notExists else none) c (forSchema false schemaName) =
        .failed (.stepFailed (.removeFolder schemaName.asRef true)) ∧
      run (.drop .schema) c ((forSchema false schemaName).take 3) =
        some { c with records := c.records.filter (· != .schema schemaName.asRef) } ∧
      Intent.dropSchema false ifExists c schemaName.asRef = .ok (c.removeObject [schemaName.asRef]) := by
  have hany : c.records.any (·.dependsOn [schemaName.asRef]) = false := List.any_eq_false.mpr (by simpa using hd)
  have hfiles : c.files.any (·.1 == schemaName.asRef) = true := List.any_eq_true.mpr ⟨_, hf, by simp⟩
  refine ⟨?_, ?_, ?_⟩
  · simp [forSchema, applySteps, hs, hany, hfiles, expectPresent, failure]
  · have hex : ¬∃ record ∈ c.records, record.dependsOn [schemaName.asRef] = true :=
      fun ⟨record, hr, h⟩ => by simp [hd record hr] at h
    simp [forSchema, run, hs, expectPresent, hex]
  · simp [Intent.dropSchema, hs, hasDependants_eq, hany]

theorem orphan_file_blocks_drop_schema_after_crash :
    run (.drop .table) ⟨["schema"], [("schema", "table")], [.table "schema" "table", .schema "schema"]⟩
        ((forTable ⟨"schema", "table"⟩).take 4) =
        some ⟨["schema"], [("schema", "table")], [.schema "schema"]⟩ ∧
      .schema "schema" ∈ [Record.schema "schema"] ∧
      (∀ record ∈ [Record.schema "schema"], record.dependsOn ["schema"] = false) ∧
      ("schema", "table") ∈ [("schema", "table")] ∧
      applySteps (.drop .schema) (if false then some .notExists else none)
          ⟨["schema"], [("schema", "table")], [.schema "schema"]⟩ (forSchema false ⟨"schema"⟩) =
        .failed (.stepFailed (.removeFolder "schema" true)) ∧
      run (.drop .schema) ⟨["schema"], [("schema", "table")], [.schema "schema"]⟩
          ((forSchema false ⟨"schema"⟩).take 3) = some ⟨["schema"], [("schema", "table")], []⟩ ∧
      Intent.dropSchema false false ⟨["schema"], [("schema", "table")], [.schema "schema"]⟩ "schema" =
        .ok ⟨[], [], []⟩ :=
  ⟨by decide, by simp, by decide, by simp,
    orphan_file_blocks_drop_schema ⟨["schema"], [("schema", "table")], [.schema "schema"]⟩ ⟨"schema"⟩ "table"
      false (by simp) (by decide) (by simp)⟩

theorem crash_then_collect_garbage_meets_intent (s : SchemaChange) (p : List Step)
    (hp : p ∈ (schemaChangePlan s).steps) (c : State) (hc : Tidy c) (k : Nat) (c' : State)
    (h : run (schemaChangePlan s).kind c (p.take k) = some c') (s' : SchemaChange) :
    applyOperation (schemaChangePlan s') c'.collectGarbage = intent s' c'.collectGarbage :=
  applyOperation_eq_intent s' _
    (collectGarbage_tidy ((schema_change_plan_runs_safely s p hp c hc.toConsistent).consistent_of_take k h))

theorem crash_then_collect_garbage_meets_intent_orphan_file :
    forTable ⟨"schema", "table"⟩ ∈
        (schemaChangePlan (.dropTables ⟨[⟨"schema", "table"⟩], false, false⟩)).steps ∧
      Tidy ⟨["schema"], [("schema", "table")], [.table "schema" "table", .schema "schema"]⟩ ∧
      run (schemaChangePlan (.dropTables ⟨[⟨"schema", "table"⟩], false, false⟩)).kind
          ⟨["schema"], [("schema", "table")], [.table "schema" "table", .schema "schema"]⟩
          ((forTable ⟨"schema", "table"⟩).take 4) =
        some ⟨["schema"], [("schema", "table")], [.schema "schema"]⟩ ∧
      applyOperation (schemaChangePlan (.dropSchemas ⟨[⟨"schema"⟩], false, false⟩))
          (State.collectGarbage ⟨["schema"], [("schema", "table")], [.schema "schema"]⟩) =
        intent (.dropSchemas ⟨[⟨"schema"⟩], false, false⟩)
          (State.collectGarbage ⟨["schema"], [("schema", "table")], [.schema "schema"]⟩) ∧
      intent (.dropSchemas ⟨[⟨"schema"⟩], false, false⟩)
          (State.collectGarbage ⟨["schema"], [("schema", "table")], [.schema "schema"]⟩) = .ok ⟨[], [], []⟩ :=
  have hc : Tidy ⟨["schema"], [("schema", "table")], [.table "schema" "table", .schema "schema"]⟩ :=
    ⟨⟨by simp, by simp, by simp, by simp, by simp⟩, by simp⟩
  ⟨by decide, hc, by decide,
    crash_then_collect_garbage_meets_intent (.dropTables ⟨[⟨"schema", "table"⟩], false, false⟩)
      (forTable ⟨"schema", "table"⟩) (by decide) _ hc 4 _ (by decide) (.dropSchemas ⟨[⟨"schema"⟩], false, false⟩),
    by decide⟩

end IsomorphicDb.DataDefinition.Catalog

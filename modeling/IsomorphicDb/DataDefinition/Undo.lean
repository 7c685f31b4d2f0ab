import IsomorphicDb.DataDefinition.Refinement

/-! The drop plan of an object, right after its create plan, gives the catalog back. -/

namespace IsomorphicDb.DataDefinition.Catalog

open Definition SystemSchemaPlanner

lemma Consistent.no_dependants {c : State} (hc : Consistent c) {s : String}
    (hs : .schema s ∉ c.records) : ∀ record ∈ c.records, record.dependsOn [s] = false := by
  intro record hr
  cases record with
  | schema => rfl
  | table s' t =>
    simp only [Record.dependsOn, beq_eq_false_iff_ne, ne_eq, List.cons.injEq, and_true]
    rintro rfl; exact hs (hc.3 _ _ hr)
  | column s' t n ty =>
    simp only [Record.dependsOn, Bool.or_eq_false_iff, beq_eq_false_iff_ne, ne_eq, List.cons.injEq,
      and_true]
    refine ⟨?_, by simp⟩
    rintro rfl; exact hs (hc.3 _ _ (hc.4 _ _ _ _ hr))

lemma run_createSchema {kind : Kind} {c c₁ : State} {n : String}
    (h : run kind c [.checkExistence .schema [n], .createFolder n, .createRecord (.schema n)] = some c₁) :
    c.holds .schema [n] = expectPresent kind .schema ∧
      c₁ = ⟨n :: c.folders, c.files, .schema n :: c.records⟩ := by
  obtain ⟨c', h₁, h⟩ := Option.bind_eq_some.mp h
  obtain ⟨rfl, hs⟩ := exec_checkExistence_eq_some.mp h₁
  exact ⟨hs, (Option.some.inj h).symm⟩

theorem drop_schema_restores_catalog (schemaName : SchemaName) (ifNotExists cascade ifExists : Bool)
    (c c₁ : State) (hc : Consistent c) (hfolder : schemaName.asRef ∉ c.folders)
    (hfiles : ∀ file ∈ c.files, file.1 ≠ schemaName.asRef) (p q : List Step)
    (hp : p ∈ (schemaChangePlan (.createSchema ⟨schemaName, ifNotExists⟩)).steps)
    (hq : q ∈ (schemaChangePlan (.dropSchemas ⟨[schemaName], cascade, ifExists⟩)).steps)
    (h : run (schemaChangePlan (.createSchema ⟨schemaName, ifNotExists⟩)).kind c p = some c₁) :
    run (schemaChangePlan (.dropSchemas ⟨[schemaName], cascade, ifExists⟩)).kind c₁ q = some c := by
  rw [plan_createSchema, List.mem_singleton] at hp
  rw [plan_createSchema] at h
  rw [plan_dropSchemas, List.map_singleton, List.mem_singleton] at hq
  rw [plan_dropSchemas]
  subst hp hq
  obtain ⟨hs, rfl⟩ := run_createSchema h
  replace hs : Record.schema schemaName.asRef ∉ c.records := by simpa [expectPresent] using hs
  have hd := hc.no_dependants hs
  have hgone : c.removeObject [schemaName.asRef] = c := by
    refine removeObject_of_absent _ (fun name hn => ?_) (fun file hf => ?_) (fun record hr => ?_)
    · simpa [List.isPrefixOf] using fun e : schemaName.asRef = name => hfolder (e ▸ hn)
    · simpa [List.isPrefixOf] using fun e : schemaName.asRef = file.1 => hfiles file hf e.symm
    · have hne : (record != .schema schemaName.asRef) = true := bne_iff_ne.mpr fun e => hs (e ▸ hr)
      simpa [hne] using (dependsOn_singleton record schemaName.asRef).symm.trans (hd record hr)
  have hrun : run (.drop .schema) (c.addSchema schemaName.asRef) (forSchema cascade schemaName) =
      some ((c.addSchema schemaName.asRef).removeObject [schemaName.asRef]) := by
    cases cascade
    · exact run_forSchema_restrict schemaName (List.mem_cons_self _ _) (by simpa [State.addSchema] using hd) hfiles
    · exact run_forSchema_cascade schemaName (List.mem_cons_self _ _)
  rwa [removeObject_addSchema, hgone] at hrun

theorem drop_schema_restores_catalog_beside_other_schema :
    run (schemaChangePlan (.dropSchemas ⟨[⟨"schema"⟩], true, false⟩)).kind
        ⟨["schema", "other"], [("other", "t")], [.schema "schema", .table "other" "t", .schema "other"]⟩
        (forSchema true ⟨"schema"⟩) =
      some ⟨["other"], [("other", "t")], [.table "other" "t", .schema "other"]⟩ :=
  drop_schema_restores_catalog ⟨"schema"⟩ false true false
    ⟨["other"], [("other", "t")], [.table "other" "t", .schema "other"]⟩ _
    ⟨by simp, by simp, by simp, by simp, by simp⟩ (by simp) (by simp)
    ((schemaChangePlan (.createSchema ⟨⟨"schema"⟩, false⟩)).steps.headD []) _
    (by decide) (by decide) (by decide)

lemma run_createTable {c c₁ : State} {fullTableName : FullTableName} {columnDefs : List ColumnInfo}
    (h : run (.create .table) c
      ([.checkExistence .schema [fullTableName.schema],
        .checkExistence .table [fullTableName.schema, fullTableName.table],
        .createFile fullTableName.schema fullTableName.table,
        .createRecord (.table fullTableName.schema fullTableName.table)] ++
        columnDefs.map (columnRecord fullTableName)) = some c₁) :
    .schema fullTableName.schema ∈ c.records ∧ .table fullTableName.schema fullTableName.table ∉ c.records ∧
      c₁ = ⟨c.folders, (fullTableName.schema, fullTableName.table) :: c.files,
        (columnDefs.map fun column =>
          Record.column fullTableName.schema fullTableName.table column.name column.sqlType).reverse ++
          .table fullTableName.schema fullTableName.table :: c.records⟩ := by
  simp only [List.cons_append, List.append_eq, List.nil_append, run, exec_checkExistence, holds_schema,
    holds_table, expectPresent, exec_createFile, exec_createRecord, Option.some_bind, run_columns] at h
  by_cases hs : Record.schema fullTableName.schema ∈ c.records <;>
    by_cases ht : Record.table fullTableName.schema fullTableName.table ∈ c.records <;> simp_all

theorem drop_table_restores_catalog (fullTableName : FullTableName) (columnDefs : List ColumnInfo)
    (ifNotExists cascade ifExists : Bool) (c c₁ : State) (hc : Consistent c)
    (hfile : (fullTableName.schema, fullTableName.table) ∉ c.files) (p q : List Step)
    (hp : p ∈ (schemaChangePlan (.createTable ⟨fullTableName, columnDefs, ifNotExists⟩)).steps)
    (hq : q ∈ (schemaChangePlan (.dropTables ⟨[fullTableName], cascade, ifExists⟩)).steps)
    (h : run (schemaChangePlan (.createTable ⟨fullTableName, columnDefs, ifNotExists⟩)).kind c p = some c₁) :
    run (schemaChangePlan (.dropTables ⟨[fullTableName], cascade, ifExists⟩)).kind c₁ q = some c := by
  rw [plan_createTable, List.mem_singleton] at hp
  rw [plan_createTable] at h
  rw [plan_dropTables, List.map_singleton, List.mem_singleton] at hq
  rw [plan_dropTables]
  subst hp hq
  obtain ⟨hs, ht, rfl⟩ := run_createTable h
  have hgone : c.removeObject [fullTableName.schema, fullTableName.table] = c := by
    refine removeObject_of_absent _ (fun _ _ => by simp [List.isPrefixOf]) (fun file hf => ?_)
      (fun record hr => ?_)
    · simpa [List.isPrefixOf] using fun e₁ e₂ => hfile (by rw [e₁, e₂]; exact hf)
    · cases record with
      | schema => simp [Record.objectPath, List.isPrefixOf]
      | table s t =>
        simpa [Record.objectPath, List.isPrefixOf] using fun e₁ e₂ => ht (by rw [e₁, e₂]; exact hr)
      | column s t n ty =>
        simpa [Record.objectPath, List.isPrefixOf] using
          fun e₁ e₂ => ht (by rw [e₁, e₂]; exact hc.column_table _ _ _ _ hr)
  have hrun := run_forTable
    (c := c.addTable fullTableName.schema fullTableName.table (columnDefs.map fun column =>
      .column fullTableName.schema fullTableName.table column.name column.sqlType))
    fullTableName (List.mem_append_right _ (.tail _ hs)) (List.mem_append_right _ (List.mem_cons_self _ _))
  rwa [removeObject_addTable, hgone] at hrun

theorem drop_table_restores_catalog_one_column :
    run (schemaChangePlan (.dropTables ⟨[⟨"schema", "table"⟩], false, false⟩)).kind
        ⟨["schema"], [("schema", "table")],
          [.column "schema" "table" "col" .bool, .table "schema" "table", .schema "schema"]⟩
        (forTable ⟨"schema", "table"⟩) =
      some ⟨["schema"], [], [.schema "schema"]⟩ :=
  drop_table_restores_catalog ⟨"schema", "table"⟩ [⟨"col", .bool⟩] false false false
    ⟨["schema"], [], [.schema "schema"]⟩ _ ⟨by simp, by simp, by simp, by simp, by simp⟩ (by simp)
    ((schemaChangePlan (.createTable ⟨⟨"schema", "table"⟩, [⟨"col", .bool⟩], false⟩)).steps.headD []) _
    (by decide) (by decide) (by decide)

end IsomorphicDb.DataDefinition.Catalog

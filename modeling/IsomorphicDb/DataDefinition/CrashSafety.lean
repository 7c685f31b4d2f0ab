import IsomorphicDb.DataDefinition.Catalog

/-! A crash between any two steps of a planned sub-program leaves the catalog consistent. -/

namespace IsomorphicDb.DataDefinition.Catalog

open Definition SystemSchemaPlanner

def SafeRun (kind : Kind) : State → List Step → Prop
  | c, [] => Consistent c
  | c, step :: steps => Consistent c ∧ ∀ c', exec kind c step = some c' → SafeRun kind c' steps

lemma SafeRun.consistent_of_take {kind : Kind} {c : State} {steps : List Step}
    (h : SafeRun kind c steps) (k : Nat) {c' : State} (hr : run kind c (steps.take k) = some c') :
    Consistent c' := by
  induction steps generalizing c k with
  | nil => simp only [List.take_nil, run, Option.some.injEq] at hr; exact hr ▸ h
  | cons step steps ih =>
    cases k with
    | zero => simp only [List.take_zero, run, Option.some.injEq] at hr; exact hr ▸ h.1
    | succ k =>
      obtain ⟨c₁, h₁, hr⟩ := Option.bind_eq_some.mp hr
      exact ih (h.2 c₁ h₁) k hr

lemma safeRun_columns (fullTableName : FullTableName) (columnDefs : List ColumnInfo) {c : State}
    (hc : Consistent c) (ht : .table fullTableName.schema fullTableName.table ∈ c.records) :
    SafeRun (.create .table) c (columnDefs.map (columnRecord fullTableName)) := by
  induction columnDefs generalizing c with
  | nil => exact hc
  | cons column columnDefs ih =>
    refine ⟨hc, fun c' h => ?_⟩
    obtain rfl := Option.some.inj h
    exact ih (hc.createRecord ht) (.tail _ ht)

section Templates

variable {c : State} (hc : Consistent c)
include hc

lemma safeRun_createSchema (name : String) :
    SafeRun (.create .schema) c
      [.checkExistence .schema [name], .createFolder name, .createRecord (.schema name)] := by
  refine ⟨hc, fun c₁ h₁ => ?_⟩
  obtain ⟨rfl, -⟩ := exec_checkExistence_eq_some.mp h₁
  refine ⟨hc, fun c₂ h₂ => ?_⟩
  obtain rfl := Option.some.inj h₂
  refine ⟨hc.createFolder name, fun c₃ h₃ => ?_⟩
  obtain rfl := Option.some.inj h₃
  exact (hc.createFolder name).createRecord (List.mem_cons_self _ _)

lemma safeRun_forSchema (cascade : Bool) (schemaName : SchemaName) :
    SafeRun (.drop .schema) c (forSchema cascade schemaName) := by
  refine ⟨hc, fun c₁ h₁ => ?_⟩
  obtain ⟨rfl, -⟩ := exec_checkExistence_eq_some.mp h₁
  cases cascade with
  | false =>
    refine ⟨hc, fun c₂ h₂ => ?_⟩
    obtain ⟨rfl, hd⟩ := exec_checkDependants_eq_some.mp h₂
    have hu : Unreferenced c (.schema schemaName.asRef) := fun t ht => by
      simpa [Record.dependsOn] using hd _ ht
    refine ⟨hc, fun c₃ h₃ => ?_⟩
    obtain rfl := Option.some.inj h₃
    refine ⟨hc.removeRecord hu, fun c₄ h₄ => ?_⟩
    obtain ⟨-, rfl⟩ := exec_removeFolder_eq_some.mp h₄
    exact (hc.removeRecord hu).removeFolder (by simp) fun t ht => hu t (List.mem_filter.mp ht).1
  | true =>
    refine ⟨hc, fun c₂ h₂ => ?_⟩
    obtain rfl := Option.some.inj h₂
    have hc₂ := hc.removeDependants [schemaName.asRef]
    have hu := unreferenced_removeDependants c schemaName.asRef
    refine ⟨hc₂, fun c₃ h₃ => ?_⟩
    obtain rfl := Option.some.inj h₃
    refine ⟨hc₂.removeRecord hu, fun c₄ h₄ => ?_⟩
    obtain ⟨-, rfl⟩ := exec_removeFolder_eq_some.mp h₄
    exact (hc₂.removeRecord hu).removeFolder (by simp) fun t ht => hu t (List.mem_filter.mp ht).1

lemma safeRun_createTable (fullTableName : FullTableName) (columnDefs : List ColumnInfo) :
    SafeRun (.create .table) c
      ([.checkExistence .schema [fullTableName.schema],
        .checkExistence .table [fullTableName.schema, fullTableName.table],
        .createFile fullTableName.schema fullTableName.table,
        .createRecord (.table fullTableName.schema fullTableName.table)] ++
        columnDefs.map (columnRecord fullTableName)) := by
  refine ⟨hc, fun c₁ h₁ => ?_⟩
  obtain ⟨rfl, hs⟩ := exec_checkExistence_eq_some.mp h₁
  replace hs : .schema fullTableName.schema ∈ c.records := by simpa [State.holds, expectPresent] using hs
  refine ⟨hc, fun c₂ h₂ => ?_⟩
  obtain ⟨rfl, -⟩ := exec_checkExistence_eq_some.mp h₂
  refine ⟨hc, fun c₃ h₃ => ?_⟩
  obtain rfl := Option.some.inj h₃
  have hc₃ := hc.createFile (t := fullTableName.table) (hc.1 _ hs)
  refine ⟨hc₃, fun c₄ h₄ => ?_⟩
  obtain rfl := Option.some.inj h₄
  exact safeRun_columns _ _ (hc₃.createRecord ⟨List.mem_cons_self _ _, hs⟩) (List.mem_cons_self _ _)

lemma safeRun_forTable (fullTableName : FullTableName) :
    SafeRun (.drop .table) c (forTable fullTableName) := by
  refine ⟨hc, fun c₁ h₁ => ?_⟩
  obtain ⟨rfl, -⟩ := exec_checkExistence_eq_some.mp h₁
  refine ⟨hc, fun c₂ h₂ => ?_⟩
  obtain ⟨rfl, -⟩ := exec_checkExistence_eq_some.mp h₂
  refine ⟨hc, fun c₃ h₃ => ?_⟩
  obtain rfl := Option.some.inj h₃
  have hc₃ := hc.removeColumns fullTableName.schema fullTableName.table
  have hu := unreferenced_removeColumns c fullTableName.schema fullTableName.table
  refine ⟨hc₃, fun c₄ h₄ => ?_⟩
  obtain rfl := Option.some.inj h₄
  refine ⟨hc₃.removeRecord hu, fun c₅ h₅ => ?_⟩
  obtain rfl := Option.some.inj h₅
  exact (hc₃.removeRecord hu).removeFile (by simp)

end Templates

theorem schema_change_plan_runs_safely (s : SchemaChange) (p : List Step)
    (hp : p ∈ (schemaChangePlan s).steps) (c : State) (hc : Consistent c) :
    SafeRun (schemaChangePlan s).kind c p := by
  rcases mem_steps hp with ⟨_, _, rfl, rfl⟩ | ⟨_, _, _, _, rfl, -, rfl⟩ | ⟨_, _, _, rfl, rfl⟩ |
    ⟨_, _, _, _, rfl, -, rfl⟩
  · exact safeRun_createSchema hc _
  · exact safeRun_forSchema hc _ _
  · exact safeRun_createTable hc _ _
  · exact safeRun_forTable hc _

theorem crash_leaves_catalog_consistent (s : SchemaChange) (p : List Step)
    (hp : p ∈ (schemaChangePlan s).steps) (c : State) (hc : Consistent c) (k : Nat) (c' : State)
    (h : run (schemaChangePlan s).kind c (p.take k) = some c') : Consistent c' :=
  (schema_change_plan_runs_safely s p hp c hc).consistent_of_take k h

theorem crash_leaves_catalog_consistent_orphan_file :
    forTable ⟨"schema", "table"⟩ ∈
        (schemaChangePlan (.dropTables ⟨[⟨"schema", "table"⟩], false, false⟩)).steps ∧
      Consistent ⟨["schema"], [("schema", "table")], [.table "schema" "table", .schema "schema"]⟩ ∧
      run (schemaChangePlan (.dropTables ⟨[⟨"schema", "table"⟩], false, false⟩)).kind
        ⟨["schema"], [("schema", "table")], [.table "schema" "table", .schema "schema"]⟩
        ((forTable ⟨"schema", "table"⟩).take 4) = some ⟨["schema"], [("schema", "table")], [.schema "schema"]⟩ ∧
      Consistent ⟨["schema"], [("schema", "table")], [.schema "schema"]⟩ :=
  have hc : Consistent ⟨["schema"], [("schema", "table")], [.table "schema" "table", .schema "schema"]⟩ :=
    ⟨by simp, by simp, by simp, by simp, by simp⟩
  ⟨by decide, hc, by decide,
    crash_leaves_catalog_consistent (.dropTables ⟨[⟨"schema", "table"⟩], false, false⟩)
      (forTable ⟨"schema", "table"⟩) (by decide) _ hc 4 _ (by decide)⟩

end IsomorphicDb.DataDefinition.Catalog

import IsomorphicDb.DataDefinition.SchemaPlanner

/-! The object each sub-program acts on, and drop plans undoing create plans. -/

namespace IsomorphicDb.DataDefinition.SystemSchemaPlanner

open Types Definition

def ActsOn (object : SystemObject) (p : List Step) (path : List String) : Prop :=
  (∀ step ∈ p, step.objectPath ≠ [] ∧ step.objectPath <+: path) ∧
    .checkExistence object path ∈ p

def PerObject {α : Type} (plan : List α → SystemOperation) (names : List α) : Prop :=
  (∀ name, (plan names).kind = (plan [name]).kind ∧
    (plan names).skipStepsIf = (plan [name]).skipStepsIf) ∧
  (plan names).steps = (names.map fun name => (plan [name]).steps).flatten ∧
  ((plan names).steps = [] ↔ names = [])

lemma perObject_of_map {α : Type} {plan : List α → SystemOperation} {kind : Kind}
    {skip : Option ObjectState} {f : α → List Step} (h : ∀ names, plan names = ⟨kind, skip, names.map f⟩)
    (names : List α) : PerObject plan names := by
  refine ⟨fun _ => by simp [h], ?_, by simp [h]⟩
  induction names with
  | nil => simp [h]
  | cons name names ih => simpa [h] using ih

lemma forSchema_actsOn (cascade : Bool) (schemaName : SchemaName) :
    ActsOn .schema (forSchema cascade schemaName) [schemaName.asRef] := by
  cases cascade <;> simp [ActsOn, forSchema, Step.objectPath, Record.objectPath]

lemma forTable_actsOn (fullTableName : FullTableName) :
    ActsOn .table (forTable fullTableName) [fullTableName.schema, fullTableName.table] := by
  simp [ActsOn, forTable, Step.objectPath, Record.objectPath]

lemma plan_actsOn (s : SchemaChange) :
    List.Forall₂ (ActsOn (schemaChangePlan s).kind.systemObject) (schemaChangePlan s).steps s.targets := by
  rcases s with ⟨schemaName, _⟩ | ⟨schemaNames, _, _⟩ | ⟨fullTableName, columnDefs, _⟩ |
    ⟨fullTableNames, _, _⟩
  · simp [plan_createSchema, SchemaChange.targets, Kind.systemObject, ActsOn, Step.objectPath,
      Record.objectPath]
  · simp only [plan_dropSchemas, SchemaChange.targets, Kind.systemObject, List.forall₂_map_left_iff,
      List.forall₂_map_right_iff, List.forall₂_same]
    exact fun _ _ => forSchema_actsOn ..
  · simp [plan_createTable, SchemaChange.targets, Kind.systemObject, ActsOn, Step.objectPath,
      Record.objectPath, columnRecord]
  · simp only [plan_dropTables, SchemaChange.targets, Kind.systemObject, List.forall₂_map_left_iff,
      List.forall₂_map_right_iff, List.forall₂_same]
    exact fun _ _ => forTable_actsOn _

theorem drop_plan_per_object :
    (∀ (schemaNames : List SchemaName) (cascade ifExists : Bool),
      PerObject (fun names => schemaChangePlan (.dropSchemas ⟨names, cascade, ifExists⟩)) schemaNames) ∧
    (∀ (fullTableNames : List FullTableName) (cascade ifExists : Bool),
      PerObject (fun names => schemaChangePlan (.dropTables ⟨names, cascade, ifExists⟩)) fullTableNames) ∧
    ∀ s : SchemaChange,
      List.Forall₂ (ActsOn (schemaChangePlan s).kind.systemObject) (schemaChangePlan s).steps s.targets :=
  ⟨fun _ _ _ => perObject_of_map (fun _ => plan_dropSchemas ..) _,
    fun _ _ _ => perObject_of_map (fun _ => plan_dropTables ..) _, plan_actsOn⟩

def UndoesAll (r : Step) (group : List Step) : Prop :=
  ∀ x ∈ group, r.undoes x = true

theorem drop_plan_undoes_create_plan :
    (∀ (schemaName : SchemaName) (cascade ifExists ifNotExists : Bool),
      (schemaChangePlan (.dropSchemas ⟨[schemaName], cascade, ifExists⟩)).steps.map
          (·.filter Step.isRemoval) =
        [[.removeRecord (.schema schemaName.asRef), .removeFolder schemaName.asRef (!cascade)]] ∧
      (schemaChangePlan (.dropSchemas ⟨[schemaName], cascade, ifExists⟩)).steps.map
          (·.filter Step.isCreation) = [[]] ∧
      (schemaChangePlan (.createSchema ⟨schemaName, ifNotExists⟩)).steps.map (·.filter Step.isCreation) =
        [[.createFolder schemaName.asRef, .createRecord (.schema schemaName.asRef)]] ∧
      List.Forall₂ UndoesAll
        [.removeRecord (.schema schemaName.asRef), .removeFolder schemaName.asRef (!cascade)]
        [[.createRecord (.schema schemaName.asRef)], [.createFolder schemaName.asRef]]) ∧
    (∀ (fullTableName : FullTableName) (columnDefs : List ColumnInfo) (cascade ifExists ifNotExists : Bool),
      (schemaChangePlan (.dropTables ⟨[fullTableName], cascade, ifExists⟩)).steps.map
          (·.filter Step.isRemoval) =
        [[.removeColumns fullTableName.schema fullTableName.table,
          .removeRecord (.table fullTableName.schema fullTableName.table),
          .removeFile fullTableName.schema fullTableName.table]] ∧
      (schemaChangePlan (.dropTables ⟨[fullTableName], cascade, ifExists⟩)).steps.map
          (·.filter Step.isCreation) = [[]] ∧
      (schemaChangePlan (.createTable ⟨fullTableName, columnDefs, ifNotExists⟩)).steps.map
          (·.filter Step.isCreation) =
        [[.createFile fullTableName.schema fullTableName.table,
          .createRecord (.table fullTableName.schema fullTableName.table)] ++
          columnDefs.map (fun column => .createRecord
            (.column fullTableName.schema fullTableName.table column.name column.sqlType))] ∧
      List.Forall₂ UndoesAll
        [.removeColumns fullTableName.schema fullTableName.table,
          .removeRecord (.table fullTableName.schema fullTableName.table),
          .removeFile fullTableName.schema fullTableName.table]
        [columnDefs.map (fun column => .createRecord
            (.column fullTableName.schema fullTableName.table column.name column.sqlType)),
          [.createRecord (.table fullTableName.schema fullTableName.table)],
          [.createFile fullTableName.schema fullTableName.table]]) := by
  refine ⟨fun _ cascade _ _ => ⟨?_, ?_, rfl, by simp [UndoesAll, Step.undoes]⟩,
    fun _ _ _ _ _ => ⟨rfl, rfl, ?_, by simp [UndoesAll, Step.undoes]⟩⟩
  · cases cascade <;> rfl
  · cases cascade <;> rfl
  · simp [plan_createTable, List.filter_map, Function.comp_def, Step.isCreation, columnRecord]

end IsomorphicDb.DataDefinition.SystemSchemaPlanner

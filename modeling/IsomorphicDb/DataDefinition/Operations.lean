import IsomorphicDb.Definition
import Mathlib.Data.List.Forall2

/-! The schema-change intents the planner reads and the step programs it emits. -/

namespace IsomorphicDb.DataDefinition

open Types Definition

/-- Modelled from the spec: the kinds of object a step acts on. -/
inductive SystemObject
  | schema | table
  deriving DecidableEq, Repr

/-- Modelled from the spec: whether an operation creates or drops, and what. -/
inductive Kind
  | create (object : SystemObject)
  | drop (object : SystemObject)
  deriving DecidableEq, Repr

/-- Modelled from the spec: the state an existence check observes. -/
inductive ObjectState
  | «exists» | notExists
  deriving DecidableEq, Repr

/-- Modelled from the spec: a catalog row, of a schema, a table or a column. -/
inductive Record
  | schema (schemaName : String)
  | table (schemaName tableName : String)
  | column (schemaName tableName columnName : String) (sqlType : SqlType)
  deriving DecidableEq, Repr

/-- Modelled from the spec: the step vocabulary of a system operation, with the fields
the planner writes. -/
inductive Step
  | checkExistence (systemObject : SystemObject) (objectName : List String)
  | checkDependants (systemObject : SystemObject) (objectName : List String)
  | removeDependants (systemObject : SystemObject) (objectName : List String)
  | removeColumns (schemaName tableName : String)
  | createFolder (name : String)
  | removeFolder (name : String) (onlyIfEmpty : Bool)
  | createFile (folderName name : String)
  | removeFile (folderName name : String)
  | createRecord (record : Record)
  | removeRecord (record : Record)
  deriving DecidableEq, Repr

/-- Modelled from the spec: what the object is, when to skip a sub-program, and the
sub-programs, one for each object. -/
structure SystemOperation where
  kind : Kind
  skipStepsIf : Option ObjectState
  steps : List (List Step)
  deriving DecidableEq, Repr

/-- Modelled from the spec: a column of a `CREATE TABLE`, its name and type. -/
structure ColumnInfo where
  name : String
  sqlType : SqlType
  deriving DecidableEq, Repr

/-- Modelled from the spec: the fields of the `CreateSchema` intent. -/
structure CreateSchemaQuery where
  schemaName : SchemaName
  ifNotExists : Bool
  deriving DecidableEq, Repr

/-- Modelled from the spec: the fields of the `DropSchemas` intent. -/
structure DropSchemasQuery where
  schemaNames : List SchemaName
  cascade : Bool
  ifExists : Bool
  deriving DecidableEq, Repr

/-- Modelled from the spec: the fields of the `CreateTable` intent. -/
structure CreateTableQuery where
  fullTableName : FullTableName
  columnDefs : List ColumnInfo
  ifNotExists : Bool
  deriving DecidableEq, Repr

/-- Modelled from the spec: the fields of the `DropTables` intent. -/
structure DropTablesQuery where
  fullTableNames : List FullTableName
  cascade : Bool
  ifExists : Bool
  deriving DecidableEq, Repr

/-- Modelled from the spec: the intents of the data-definition statements. -/
inductive SchemaChange
  | createSchema (query : CreateSchemaQuery)
  | dropSchemas (query : DropSchemasQuery)
  | createTable (query : CreateTableQuery)
  | dropTables (query : DropTablesQuery)
  deriving DecidableEq, Repr

def Kind.systemObject : Kind → SystemObject
  | .create object | .drop object => object

def SchemaChange.isCreate : SchemaChange → Bool
  | .createSchema _ | .createTable _ => true
  | _ => false

def SchemaChange.isDrop : SchemaChange → Bool
  | .dropSchemas _ | .dropTables _ => true
  | _ => false

def SchemaChange.targets : SchemaChange → List (List String)
  | .createSchema query => [[query.schemaName.asRef]]
  | .dropSchemas query => query.schemaNames.map fun name => [name.asRef]
  | .createTable query => [[query.fullTableName.schema, query.fullTableName.table]]
  | .dropTables query => query.fullTableNames.map fun name => [name.schema, name.table]

def Record.objectPath : Record → List String
  | .schema schemaName => [schemaName]
  | .table schemaName tableName | .column schemaName tableName .. => [schemaName, tableName]

namespace Step

def isCheckExistence : Step → Bool
  | .checkExistence .. => true
  | _ => false

def isStorageCreation : Step → Bool
  | .createFolder _ | .createFile .. => true
  | _ => false

def isStorageRemoval : Step → Bool
  | .removeFolder .. | .removeFile .. => true
  | _ => false

def isCreateRecord : Step → Bool
  | .createRecord _ => true
  | _ => false

def isColumnRecord : Step → Bool
  | .createRecord (.column ..) => true
  | _ => false

def isDependantsStep : Step → Bool
  | .checkDependants .. | .removeDependants .. => true
  | _ => false

def isCatalogStep : Step → Bool
  | .checkDependants .. | .removeDependants .. | .removeColumns .. | .removeRecord _ => true
  | _ => false

def isCreation : Step → Bool
  | .createFolder _ | .createFile .. | .createRecord _ => true
  | _ => false

def isRemoval : Step → Bool
  | .removeFolder .. | .removeFile .. | .removeRecord _ | .removeColumns .. => true
  | _ => false

def objectPath : Step → List String
  | .checkExistence _ objectName | .checkDependants _ objectName
  | .removeDependants _ objectName => objectName
  | .removeColumns schemaName tableName => [schemaName, tableName]
  | .createFolder name | .removeFolder name _ => [name]
  | .createFile folderName name | .removeFile folderName name => [folderName, name]
  | .createRecord record | .removeRecord record => record.objectPath

def undoes : Step → Step → Bool
  | .removeFolder name _, .createFolder name' => name == name'
  | .removeFile folderName name, .createFile folderName' name' =>
    folderName == folderName' && name == name'
  | .removeRecord record, .createRecord record' => record == record'
  | .removeColumns schemaName tableName, .createRecord (.column schemaName' tableName' ..) =>
    schemaName == schemaName' && tableName == tableName'
  | _, _ => false

end Step

def Precedes {α : Type} (p q : α → Bool) (l : List α) : Prop :=
  ∀ (i j : Nat) (x y : α), l[i]? = some x → l[j]? = some y → p x → q y → i < j

lemma precedes_append {α : Type} {p q : α → Bool} (l₁ l₂ : List α)
    (h₁ : ∀ x ∈ l₁, q x = false) (h₂ : ∀ x ∈ l₂, p x = false) : Precedes p q (l₁ ++ l₂) := by
  intro i j x y hx hy px qy
  by_contra hij
  rcases Nat.lt_or_ge j l₁.length with hj | hj
  · rw [List.getElem?_append_left hj] at hy
    simp [h₁ y (List.getElem?_mem hy)] at qy
  · rw [List.getElem?_append_right (by omega)] at hx
    simp [h₂ x (List.getElem?_mem hx)] at px

end IsomorphicDb.DataDefinition

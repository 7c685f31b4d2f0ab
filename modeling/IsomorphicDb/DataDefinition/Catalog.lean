import IsomorphicDb.DataDefinition.SchemaPlanner

/-! The catalog that runs the planner's steps, and which steps keep it consistent. -/

namespace IsomorphicDb.DataDefinition

open Definition SystemSchemaPlanner

def Record.dependsOn : Record → List String → Bool
  | .schema _, _ => false
  | .table schemaName _, path => path == [schemaName]
  | .column schemaName tableName .., path => path == [schemaName] || path == [schemaName, tableName]

def Record.isColumnOf (schemaName tableName : String) : Record → Bool
  | .column schemaName' tableName' .. => schemaName' == schemaName && tableName' == tableName
  | _ => false

namespace Catalog

/-- Modelled from the spec: a folder for each schema, a file for each table in its
schema's folder, and the catalog rows. -/
structure State where
  folders : List String
  files : List (String × String)
  records : List Record
  deriving DecidableEq, Repr

def State.holds (c : State) : SystemObject → List String → Bool
  | .schema, [schemaName] => decide (.schema schemaName ∈ c.records)
  | .table, [schemaName, tableName] => decide (.table schemaName tableName ∈ c.records)
  | _, _ => false

def expectPresent : Kind → SystemObject → Bool
  | .create .schema, .schema | .create .table, .table => false
  | _, _ => true

/-- Modelled from the spec: the effect of one step under the kind of its operation;
`none` when a check fails. -/
def exec (kind : Kind) (c : State) : Step → Option State
  | .checkExistence object path => if c.holds object path = expectPresent kind object then some c else none
  | .checkDependants _ path => if c.records.any (·.dependsOn path) then none else some c
  | .removeDependants _ path =>
    some { c with
      records := c.records.filter (!·.dependsOn path)
      files := c.files.filter fun file => [file.1] != path }
  | .createFolder name => some { c with folders := name :: c.folders }
  | .removeFolder name onlyIfEmpty =>
    if onlyIfEmpty && c.files.any (·.1 == name) then none
    else some { c with folders := c.folders.filter (· != name), files := c.files.filter (·.1 != name) }
  | .createFile folderName name => some { c with files := (folderName, name) :: c.files }
  | .removeFile folderName name => some { c with files := c.files.filter (· != (folderName, name)) }
  | .createRecord record => some { c with records := record :: c.records }
  | .removeRecord record => some { c with records := c.records.filter (· != record) }
  | .removeColumns schemaName tableName =>
    some { c with records := c.records.filter (!·.isColumnOf schemaName tableName) }

section Equations

variable (kind : Kind) (c : State)

@[simp] lemma holds_schema (s : String) : c.holds .schema [s] = decide (.schema s ∈ c.records) := rfl
@[simp] lemma holds_table (s t : String) : c.holds .table [s, t] = decide (.table s t ∈ c.records) :=
  rfl

@[simp] lemma dependsOn_schema (s : String) (path : List String) :
    (Record.schema s).dependsOn path = false := rfl
@[simp] lemma dependsOn_table (s t : String) (path : List String) :
    (Record.table s t).dependsOn path = (path == [s]) := rfl
@[simp] lemma dependsOn_column (s t n : String) (ty : Types.SqlType) (path : List String) :
    (Record.column s t n ty).dependsOn path = (path == [s] || path == [s, t]) := rfl

@[simp] lemma isColumnOf_schema (s t s' : String) : (Record.schema s').isColumnOf s t = false := rfl
@[simp] lemma isColumnOf_table (s t s' t' : String) : (Record.table s' t').isColumnOf s t = false := rfl
@[simp] lemma isColumnOf_column (s t s' t' n : String) (ty : Types.SqlType) :
    (Record.column s' t' n ty).isColumnOf s t = (s' == s && t' == t) := rfl

@[simp] lemma exec_createFolder (name : String) :
    exec kind c (.createFolder name) = some { c with folders := name :: c.folders } := rfl
@[simp] lemma exec_createFile (folderName name : String) :
    exec kind c (.createFile folderName name) = some { c with files := (folderName, name) :: c.files } :=
  rfl
@[simp] lemma exec_createRecord (record : Record) :
    exec kind c (.createRecord record) = some { c with records := record :: c.records } := rfl
@[simp] lemma exec_removeFile (folderName name : String) :
    exec kind c (.removeFile folderName name) =
      some { c with files := c.files.filter (· != (folderName, name)) } := rfl
@[simp] lemma exec_removeRecord (record : Record) :
    exec kind c (.removeRecord record) = some { c with records := c.records.filter (· != record) } := rfl
@[simp] lemma exec_removeColumns (s t : String) :
    exec kind c (.removeColumns s t) =
      some { c with records := c.records.filter (!·.isColumnOf s t) } := rfl
@[simp] lemma exec_removeDependants (object : SystemObject) (path : List String) :
    exec kind c (.removeDependants object path) =
      some { c with
        records := c.records.filter (!·.dependsOn path)
        files := c.files.filter fun file => [file.1] != path } := rfl

@[simp] lemma exec_checkExistence (object : SystemObject) (path : List String) :
    exec kind c (.checkExistence object path) =
      if c.holds object path = expectPresent kind object then some c else none := rfl
@[simp] lemma exec_checkDependants (object : SystemObject) (path : List String) :
    exec kind c (.checkDependants object path) =
      if c.records.any (·.dependsOn path) then none else some c := rfl
@[simp] lemma exec_removeFolder (name : String) (onlyIfEmpty : Bool) :
    exec kind c (.removeFolder name onlyIfEmpty) =
      if onlyIfEmpty && c.files.any (·.1 == name) then none
      else some { c with folders := c.folders.filter (· != name), files := c.files.filter (·.1 != name) } :=
  rfl

end Equations

def run (kind : Kind) : State → List Step → Option State
  | c, [] => some c
  | c, step :: steps => (exec kind c step).bind fun c' => run kind c' steps

structure Consistent (c : State) : Prop where
  schema_folder : ∀ s, .schema s ∈ c.records → s ∈ c.folders
  table_file : ∀ s t, .table s t ∈ c.records → (s, t) ∈ c.files
  table_schema : ∀ s t, .table s t ∈ c.records → .schema s ∈ c.records
  column_table : ∀ s t n ty, .column s t n ty ∈ c.records → .table s t ∈ c.records
  file_folder : ∀ s t, (s, t) ∈ c.files → s ∈ c.folders

def Backed (c : State) : Record → Prop
  | .schema s => s ∈ c.folders
  | .table s t => (s, t) ∈ c.files ∧ .schema s ∈ c.records
  | .column s t .. => .table s t ∈ c.records

def Unreferenced (c : State) : Record → Prop
  | .schema s => ∀ t, .table s t ∉ c.records
  | .table s t => ∀ n ty, .column s t n ty ∉ c.records
  | .column .. => True

lemma unreferenced_removeDependants (c : State) (s : String) :
    Unreferenced { c with
      records := c.records.filter (!·.dependsOn [s])
      files := c.files.filter fun file => [file.1] != [s] } (.schema s) := by
  simp [Unreferenced, Record.dependsOn]

lemma unreferenced_removeColumns (c : State) (s t : String) :
    Unreferenced { c with records := c.records.filter (!·.isColumnOf s t) } (.table s t) := by
  simp [Unreferenced, Record.isColumnOf]

namespace Consistent

variable {c : State} (hc : Consistent c)
include hc

lemma createFolder (name : String) : Consistent { c with folders := name :: c.folders } :=
  ⟨fun s h => .tail _ (hc.1 s h), hc.2, hc.3, hc.4, fun s t h => .tail _ (hc.5 s t h)⟩

lemma createFile {s t : String} (hs : s ∈ c.folders) :
    Consistent { c with files := (s, t) :: c.files } := by
  refine ⟨hc.1, fun s t h => .tail _ (hc.2 s t h), hc.3, hc.4, fun s' t' h => ?_⟩
  rcases List.mem_cons.mp h with h | h
  · cases h; exact hs
  · exact hc.5 _ _ h

lemma createRecord {record : Record} (hb : Backed c record) :
    Consistent { c with records := record :: c.records } := by
  refine ⟨fun s h => ?_, fun s t h => ?_, fun s t h => ?_, fun s t n ty h => ?_, hc.5⟩ <;>
    rcases List.mem_cons.mp h with rfl | h
  · exact hb
  · exact hc.1 s h
  · exact hb.1
  · exact hc.2 s t h
  · exact .tail _ hb.2
  · exact .tail _ (hc.3 s t h)
  · exact .tail _ hb
  · exact .tail _ (hc.4 s t n ty h)

lemma removeRecord {record : Record} (hu : Unreferenced c record) :
    Consistent { c with records := c.records.filter (· != record) } := by
  constructor <;> simp only [List.mem_filter, bne_iff_ne, ne_eq]
  · exact fun s h => hc.1 s h.1
  · exact fun s t h => hc.2 s t h.1
  · refine fun s t h => ⟨hc.3 s t h.1, ?_⟩
    rintro rfl
    exact hu t h.1
  · refine fun s t n ty h => ⟨hc.4 s t n ty h.1, ?_⟩
    rintro rfl
    exact hu n ty h.1
  · exact hc.5

lemma removeColumns (s t : String) :
    Consistent { c with records := c.records.filter (!·.isColumnOf s t) } := by
  constructor <;> simp only [List.mem_filter]
  · exact fun s h => hc.1 s h.1
  · exact fun s t h => hc.2 s t h.1
  · exact fun s t h => ⟨hc.3 s t h.1, rfl⟩
  · exact fun s t n ty h => ⟨hc.4 s t n ty h.1, rfl⟩
  · exact hc.5

lemma removeFile {s t : String} (ht : .table s t ∉ c.records) :
    Consistent { c with files := c.files.filter (· != (s, t)) } := by
  constructor <;> simp only [List.mem_filter, bne_iff_ne, ne_eq]
  · exact hc.1
  · refine fun s' t' h => ⟨hc.2 s' t' h, ?_⟩
    rintro ⟨⟩
    exact ht h
  · exact hc.3
  · exact hc.4
  · exact fun s t h => hc.5 s t h.1

lemma removeFolder {s : String} (hs : .schema s ∉ c.records) (ht : ∀ t, .table s t ∉ c.records) :
    Consistent { c with folders := c.folders.filter (· != s), files := c.files.filter (·.1 != s) } := by
  constructor <;> simp only [List.mem_filter, bne_iff_ne, ne_eq]
  · refine fun s' h => ⟨hc.1 s' h, ?_⟩
    rintro rfl
    exact hs h
  · refine fun s' t' h => ⟨hc.2 s' t' h, ?_⟩
    rintro rfl
    exact ht t' h
  · exact hc.3
  · exact hc.4
  · exact fun s' t' h => ⟨hc.5 s' t' h.1, h.2⟩

lemma removeDependants (path : List String) :
    Consistent { c with
      records := c.records.filter (!·.dependsOn path)
      files := c.files.filter fun file => [file.1] != path } := by
  constructor <;> simp only [List.mem_filter, Bool.not_eq_true', bne_iff_ne, ne_eq]
  · exact fun s h => hc.1 s h.1
  · refine fun s t h => ⟨hc.2 s t h.1, fun e => ?_⟩
    subst e
    simp [Record.dependsOn] at h
  · exact fun s t h => ⟨hc.3 s t h.1, rfl⟩
  · refine fun s t n ty h => ⟨hc.4 s t n ty h.1, ?_⟩
    simp only [Record.dependsOn, Bool.or_eq_false_iff] at h
    exact h.2.1
  · exact fun s t h => hc.5 s t h.1

end Consistent

section Exec

variable {kind : Kind} {c c' : State}

lemma exec_checkExistence_eq_some {object : SystemObject} {path : List String} :
    exec kind c (.checkExistence object path) = some c' ↔
      c = c' ∧ c.holds object path = expectPresent kind object := by
  by_cases h : c.holds object path = expectPresent kind object <;> simp [exec, h]

lemma exec_checkDependants_eq_some {object : SystemObject} {path : List String} :
    exec kind c (.checkDependants object path) = some c' ↔
      c = c' ∧ ∀ record ∈ c.records, record.dependsOn path = false := by
  simp [exec, and_comm]

lemma exec_removeFolder_eq_some {name : String} {onlyIfEmpty : Bool} :
    exec kind c (.removeFolder name onlyIfEmpty) = some c' ↔
      (onlyIfEmpty → ∀ file ∈ c.files, file.1 ≠ name) ∧
      c' = { c with folders := c.folders.filter (· != name), files := c.files.filter (·.1 != name) } := by
  cases onlyIfEmpty <;> simp [exec_removeFolder, @eq_comm _ c']
  exact fun _ => ⟨fun h a b hab e => h b (e ▸ hab), fun h x hx => h _ _ hx rfl⟩

end Exec

end Catalog

end IsomorphicDb.DataDefinition

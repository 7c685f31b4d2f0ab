import IsomorphicDb.DataDefinition.Executor

/-! What a schema change means for whole objects, and the tidy catalogs it keeps. -/

namespace IsomorphicDb.DataDefinition.Catalog

open Definition SystemSchemaPlanner

def State.removeObject (c : State) (path : List String) : State where
  folders := c.folders.filter fun name => !path.isPrefixOf [name]
  files := c.files.filter fun file => !path.isPrefixOf [file.1, file.2]
  records := c.records.filter fun record => !path.isPrefixOf record.objectPath

def State.addSchema (c : State) (schemaName : String) : State :=
  ⟨schemaName :: c.folders, c.files, .schema schemaName :: c.records⟩

def State.addTable (c : State) (schemaName tableName : String) (columns : List Record) : State :=
  ⟨c.folders, (schemaName, tableName) :: c.files, columns.reverse ++ .table schemaName tableName :: c.records⟩

def State.hasDependants (c : State) (schemaName : String) : Bool :=
  c.records.any fun record => [schemaName].isPrefixOf record.objectPath && record != .schema schemaName

/-- Modelled from the spec: the garbage collection that recovers the files a crash left
without their table row. -/
def State.collectGarbage (c : State) : State :=
  { c with files := c.files.filter fun file => decide (.table file.1 file.2 ∈ c.records) }

namespace Intent

def createSchema (ifNotExists : Bool) (c : State) (schemaName : String) : Except ExecutionError State :=
  if c.holds .schema [schemaName] then
    if ifNotExists then .ok c else .error (.objectAlreadyExists .schema [schemaName])
  else .ok (c.addSchema schemaName)

def dropSchema (cascade ifExists : Bool) (c : State) (schemaName : String) : Except ExecutionError State :=
  if c.holds .schema [schemaName] then
    if !cascade && c.hasDependants schemaName then .error (.hasDependants .schema [schemaName])
    else .ok (c.removeObject [schemaName])
  else if ifExists then .ok c else .error (.objectDoesNotExist .schema [schemaName])

def createTable (ifNotExists : Bool) (c : State) (schemaName tableName : String) (columns : List Record) :
    Except ExecutionError State :=
  if c.holds .schema [schemaName] then
    if c.holds .table [schemaName, tableName] then
      if ifNotExists then .ok c else .error (.objectAlreadyExists .table [schemaName, tableName])
    else .ok (c.addTable schemaName tableName columns)
  else .error (.objectDoesNotExist .schema [schemaName])

def dropTable (ifExists : Bool) (c : State) (schemaName tableName : String) : Except ExecutionError State :=
  if c.holds .schema [schemaName] then
    if c.holds .table [schemaName, tableName] then .ok (c.removeObject [schemaName, tableName])
    else if ifExists then .ok c else .error (.objectDoesNotExist .table [schemaName, tableName])
  else if ifExists then .ok c else .error (.objectDoesNotExist .schema [schemaName])

end Intent

def intent : SchemaChange → State → Except ExecutionError State
  | .createSchema ⟨schemaName, ifNotExists⟩, c => Intent.createSchema ifNotExists c schemaName.asRef
  | .dropSchemas ⟨schemaNames, cascade, ifExists⟩, c =>
    schemaNames.foldlM (fun c schemaName => Intent.dropSchema cascade ifExists c schemaName.asRef) c
  | .createTable ⟨fullTableName, columnDefs, ifNotExists⟩, c =>
    Intent.createTable ifNotExists c fullTableName.schema fullTableName.table
      (columnDefs.map fun column =>
        .column fullTableName.schema fullTableName.table column.name column.sqlType)
  | .dropTables ⟨fullTableNames, _, ifExists⟩, c =>
    fullTableNames.foldlM (fun c fullTableName =>
      Intent.dropTable ifExists c fullTableName.schema fullTableName.table) c

structure Tidy (c : State) extends Consistent c : Prop where
  file_table : ∀ s t, (s, t) ∈ c.files → .table s t ∈ c.records

lemma dependsOn_singleton (record : Record) (schemaName : String) :
    record.dependsOn [schemaName] =
      ([schemaName].isPrefixOf record.objectPath && record != .schema schemaName) := by
  cases record <;> simp [Record.dependsOn, Record.objectPath, List.isPrefixOf, bne, Bool.beq_comm]

lemma hasDependants_eq (c : State) (schemaName : String) :
    c.hasDependants schemaName = c.records.any (·.dependsOn [schemaName]) := by
  simp only [State.hasDependants, dependsOn_singleton]

lemma foldlM_invariant {α : Type} (P : State → Prop) {g : State → α → Except ExecutionError State} :
    ∀ (l : List α), (∀ x ∈ l, ∀ c c', P c → g c x = .ok c' → P c') →
      ∀ (c c' : State), P c → l.foldlM g c = .ok c' → P c'
  | [], _, _, _, hc, h => by cases h; exact hc
  | x :: l, hg, c, c', hc, h => by
    rw [List.foldlM_cons] at h
    cases hx : g c x with
    | error => rw [hx] at h; cases h
    | ok c₁ =>
      rw [hx] at h
      exact foldlM_invariant P l (fun y hy => hg y (.tail _ hy)) c₁ c'
        (hg x (List.mem_cons_self _ _) c c₁ hc hx) h

lemma foldlM_eq_of_invariant {α : Type} (P : State → Prop) {f g : State → α → Except ExecutionError State}
    (hfg : ∀ c x, P c → f c x = g c x) (hg : ∀ c x c', P c → g c x = .ok c' → P c') :
    ∀ (l : List α) (c : State), P c → l.foldlM f c = l.foldlM g c
  | [], _, _ => rfl
  | x :: l, c, hc => by
    rw [List.foldlM_cons, List.foldlM_cons, hfg c x hc]
    cases h : g c x with
    | error => rfl
    | ok c' => exact foldlM_eq_of_invariant P hfg hg l c' (hg c x c' hc h)

lemma isPrefixOf_pair {path : List String} {s : String} (t : String) (h : path.isPrefixOf [s] = true) :
    path.isPrefixOf [s, t] = true :=
  List.isPrefixOf_iff_prefix.mpr ((List.isPrefixOf_iff_prefix.mp h).trans ⟨[t], rfl⟩)

section Undo

variable {c : State}

lemma removeObject_addSchema (schemaName : String) :
    (c.addSchema schemaName).removeObject [schemaName] = c.removeObject [schemaName] := by
  simp [State.addSchema, State.removeObject, List.filter_cons, List.isPrefixOf, Record.objectPath]

lemma removeObject_addTable (schemaName tableName : String) (columns : List ColumnInfo) :
    (c.addTable schemaName tableName (columns.map fun column =>
      .column schemaName tableName column.name column.sqlType)).removeObject [schemaName, tableName] =
      c.removeObject [schemaName, tableName] := by
  simp [State.addTable, State.removeObject, List.filter_cons, List.isPrefixOf, Record.objectPath,
    List.filter_append, List.filter_reverse, List.filter_map, Function.comp_def]

lemma removeObject_of_absent (path : List String)
    (hfolders : ∀ name ∈ c.folders, path.isPrefixOf [name] = false)
    (hfiles : ∀ file ∈ c.files, path.isPrefixOf [file.1, file.2] = false)
    (hrecords : ∀ record ∈ c.records, path.isPrefixOf record.objectPath = false) :
    c.removeObject path = c := by
  simp only [State.removeObject]
  rw [List.filter_eq_self.mpr (by simpa using hfolders), List.filter_eq_self.mpr (by simpa using hfiles),
    List.filter_eq_self.mpr (by simpa using hrecords)]

end Undo

lemma collectGarbage_tidy {c : State} (hc : Consistent c) : Tidy c.collectGarbage := by
  refine ⟨⟨hc.schema_folder, fun s t h => ?_, hc.table_schema, hc.column_table, fun s t h => ?_⟩,
    fun s t h => ?_⟩ <;> simp only [State.collectGarbage, List.mem_filter, decide_eq_true_eq] at h ⊢
  · exact ⟨hc.table_file s t h, h⟩
  · exact hc.file_folder s t h.1
  · exact h.2

namespace Tidy

variable {c : State} (hc : Tidy c)
include hc

lemma addSchema (schemaName : String) : Tidy (c.addSchema schemaName) :=
  ⟨(hc.createFolder schemaName).createRecord (List.mem_cons_self _ _),
    fun s t h => .tail _ (hc.file_table s t h)⟩

lemma addTable {schemaName : String} (hs : .schema schemaName ∈ c.records) (tableName : String)
    (columns : List ColumnInfo) :
    Tidy (c.addTable schemaName tableName (columns.map fun column =>
      .column schemaName tableName column.name column.sqlType)) := by
  refine ⟨⟨?_, ?_, ?_, ?_, ?_⟩, ?_⟩ <;> simp only [State.addTable, List.mem_append, List.mem_reverse,
    List.mem_map, List.mem_cons, Prod.mk.injEq, reduceCtorEq, Record.table.injEq, Record.column.injEq,
    exists_false, false_or, and_false]
  · exact hc.schema_folder
  · rintro s t (⟨rfl, rfl⟩ | h)
    · exact .inl ⟨rfl, rfl⟩
    · exact .inr (hc.table_file s t h)
  · rintro s t (⟨rfl, rfl⟩ | h)
    · exact hs
    · exact hc.table_schema s t h
  · rintro s t n ty (⟨_, _, ⟨rfl, rfl, -⟩⟩ | h)
    · exact .inl ⟨rfl, rfl⟩
    · exact .inr (hc.column_table s t n ty h)
  · rintro s t (⟨rfl, rfl⟩ | h)
    · exact hc.schema_folder s hs
    · exact hc.file_folder s t h
  · rintro s t (⟨rfl, rfl⟩ | h)
    · exact .inl ⟨rfl, rfl⟩
    · exact .inr (hc.file_table s t h)

lemma removeObject (path : List String) : Tidy (c.removeObject path) := by
  refine ⟨⟨?_, ?_, ?_, ?_, ?_⟩, ?_⟩ <;>
    simp only [State.removeObject, List.mem_filter, Record.objectPath, Bool.not_eq_true', and_imp]
  · exact fun s h hp => ⟨hc.schema_folder s h, hp⟩
  · exact fun s t h hp => ⟨hc.table_file s t h, hp⟩
  · refine fun s t h hp => ⟨hc.table_schema s t h, ?_⟩
    cases hs : path.isPrefixOf [s]
    · rfl
    · simp [isPrefixOf_pair t hs] at hp
  · exact fun s t n ty h hp => ⟨hc.column_table s t n ty h, hp⟩
  · refine fun s t h hp => ⟨hc.file_folder s t h, ?_⟩
    cases hs : path.isPrefixOf [s]
    · rfl
    · simp [isPrefixOf_pair t hs] at hp
  · exact fun s t h hp => ⟨hc.file_table s t h, hp⟩

variable {c' : State}

lemma dropSchema {cascade ifExists : Bool} {schemaName : String}
    (h : Intent.dropSchema cascade ifExists c schemaName = .ok c') : Tidy c' := by
  unfold Intent.dropSchema at h
  split_ifs at h <;> cases h
  · exact hc.removeObject _
  · exact hc

lemma dropTable {ifExists : Bool} {schemaName tableName : String}
    (h : Intent.dropTable ifExists c schemaName tableName = .ok c') : Tidy c' := by
  unfold Intent.dropTable at h
  split_ifs at h <;> cases h
  · exact hc.removeObject _
  all_goals exact hc

lemma intent {s : SchemaChange} (h : intent s c = .ok c') : Tidy c' := by
  rcases s with ⟨schemaName, ifNotExists⟩ | ⟨schemaNames, cascade, ifExists⟩ |
    ⟨fullTableName, columnDefs, ifNotExists⟩ | ⟨fullTableNames, cascade, ifExists⟩
  · simp only [Catalog.intent, Intent.createSchema] at h
    split_ifs at h <;> cases h
    · exact hc
    · exact hc.addSchema _
  · exact foldlM_invariant Tidy _ (fun _ _ _ _ hc h => hc.dropSchema h) _ _ hc h
  · simp only [Catalog.intent, Intent.createTable] at h
    split_ifs at h with hs <;> cases h
    · exact hc
    · exact hc.addTable (by simpa using hs) _ _
  · exact foldlM_invariant Tidy _ (fun _ _ _ _ hc h => hc.dropTable h) _ _ hc h

end Tidy

end IsomorphicDb.DataDefinition.Catalog

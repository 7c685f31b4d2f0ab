import IsomorphicDb.Types

/-! Schema and table names read from object names, and the catalog's column and table definitions. -/

namespace IsomorphicDb.Definition

open SqlAst Types

def asciiLowercase (s : String) : String :=
  ⟨s.toList.map Char.toLower⟩

/-- What the development assumes of `str::to_lowercase`: on ASCII text it lowers the
capital letters and keeps every other character. -/
def AgreesOnAscii (toLowercase : String → String) : Prop :=
  ∀ s : String, (∀ c ∈ s.toList, c.toNat < 128) → toLowercase s = asciiLowercase s

structure FullTableName where
  schema : String
  table : String
  deriving DecidableEq, Repr

def FullTableName.display (name : FullTableName) : String :=
  name.schema ++ "." ++ name.table

structure TableNamingError where
  name : String
  deriving DecidableEq, Repr

def TableNamingError.display (error : TableNamingError) : String :=
  "Unable to process table name \x27" ++ error.name ++ "\x27"

structure SchemaName where
  asRef : String
  deriving DecidableEq, Repr

structure SchemaNamingError where
  name : String
  deriving DecidableEq, Repr

def SchemaNamingError.display (error : SchemaNamingError) : String :=
  "Only unqualified schema names are supported, \x27" ++ error.name ++ "\x27"

section Lowercase

variable (toLowercase : String → String)

def FullTableName.tryFrom (object : ObjectName) : Option (Except TableNamingError FullTableName) :=
  if object.idents.length > 2 then
    object.display.map fun name => .error ⟨name⟩
  else if object.idents.length = 1 then
    object.idents.head?.map fun first => .ok ⟨toLowercase "public", toLowercase first.value⟩
  else
    object.idents.head?.bind fun first => object.idents.getLast?.map fun last =>
      .ok ⟨toLowercase first.value, toLowercase last.value⟩

def SchemaName.tryFrom (object : ObjectName) : Option (Except SchemaNamingError SchemaName) :=
  if object.idents.length ≠ 1 then
    object.display.map fun name => .error ⟨name⟩
  else
    object.display.map fun name => .ok ⟨toLowercase name⟩

@[simp] lemma FullTableName.tryFrom_two (schema table : Ident) :
    FullTableName.tryFrom toLowercase ⟨[schema, table]⟩ =
      some (.ok ⟨toLowercase schema.value, toLowercase table.value⟩) := rfl

@[simp] lemma SchemaName.tryFrom_single (ident : Ident) :
    SchemaName.tryFrom toLowercase ⟨[ident]⟩ = ident.display.map fun name => .ok ⟨toLowercase name⟩ := by
  simp [SchemaName.tryFrom]

theorem SchemaName.tryFrom_unquoted_agrees (value : String) (table : Ident) :
    ∃ name full, SchemaName.tryFrom toLowercase ⟨[⟨value, none⟩]⟩ = some (.ok name) ∧
      FullTableName.tryFrom toLowercase ⟨[⟨value, none⟩, table]⟩ = some (.ok full) ∧ name.asRef = full.schema :=
  ⟨_, _, by simp, rfl, rfl⟩

end Lowercase

theorem SchemaName.tryFrom_keeps_quotes (toLowercase : String → String) (hlower : AgreesOnAscii toLowercase) :
    SchemaName.tryFrom toLowercase ⟨[⟨"s", some '"'⟩]⟩ = some (.ok ⟨"\"s\""⟩) ∧
      FullTableName.tryFrom toLowercase ⟨[⟨"s", some '"'⟩, ⟨"t", none⟩]⟩ = some (.ok ⟨"s", "t"⟩) := by
  have hquoted : Ident.display ⟨"s", some '"'⟩ = some "\"s\"" := rfl
  simp only [SchemaName.tryFrom_single, hquoted, FullTableName.tryFrom_two, Option.map_some',
    hlower "\"s\"" (by decide), hlower "s" (by decide), hlower "t" (by decide)]
  decide

theorem SchemaName.tryFrom_keeps_quotes_ascii :
    AgreesOnAscii asciiLowercase ∧
      SchemaName.tryFrom asciiLowercase ⟨[⟨"s", some '"'⟩]⟩ = some (.ok ⟨"\"s\""⟩) ∧
      FullTableName.tryFrom asciiLowercase ⟨[⟨"s", some '"'⟩, ⟨"t", none⟩]⟩ = some (.ok ⟨"s", "t"⟩) :=
  ⟨fun _ _ => rfl, SchemaName.tryFrom_keeps_quotes asciiLowercase fun _ _ => rfl⟩

structure ColumnDef where
  name : String
  sqlType : SqlType
  ordNum : Nat
  deriving DecidableEq, Repr

def ColumnDef.hasName (column : ColumnDef) (name : String) : Bool :=
  column.name == name

structure TableDef where
  schema : String
  name : String
  columns : List ColumnDef
  deriving DecidableEq, Repr

namespace TableDef

def new (fullTableName : FullTableName) (columns : List ColumnDef) : TableDef :=
  ⟨fullTableName.schema, fullTableName.table, columns⟩

def columnNames (table : TableDef) : List String :=
  table.columns.map (·.name)

def hasColumn (table : TableDef) (columnName : String) : Bool :=
  table.columns.any (·.name == columnName)

end TableDef

end IsomorphicDb.Definition

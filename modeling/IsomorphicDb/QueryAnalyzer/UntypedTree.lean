import IsomorphicDb.SqlAst

/-! The untyped trees the analyzer builds and the analyzer's errors. -/

namespace IsomorphicDb.QueryAnalyzer

open SqlAst

/-- Modelled from the spec: the arithmetic operators of an untyped tree. -/
inductive Arithmetic
  | add | sub | mul | div | mod
  deriving DecidableEq, Repr

/-- Modelled from the spec: the comparison operators of an untyped tree. -/
inductive Comparison
  | eq | notEq | lt | ltEq | gt | gtEq
  deriving DecidableEq, Repr

/-- Modelled from the spec: the logical operators of an untyped tree. -/
inductive Logical
  | and | or
  deriving DecidableEq, Repr

/-- Modelled from the spec: the bitwise operators of an untyped tree. -/
inductive Bitwise
  | and | or | xor | shiftLeft | shiftRight
  deriving DecidableEq, Repr

/-- Modelled from the spec: the string operators of an untyped tree. -/
inductive StringOp
  | concat
  deriving DecidableEq, Repr

/-- Modelled from the spec: the pattern-matching operators of an untyped tree. -/
inductive PatternMatching
  | like | notLike
  deriving DecidableEq, Repr

/-- Modelled from the spec: the operator families of an untyped tree. -/
inductive Operation
  | arithmetic (op : Arithmetic)
  | comparison (op : Comparison)
  | logical (op : Logical)
  | bitwise (op : Bitwise)
  | stringOp (op : StringOp)
  | patternMatching (op : PatternMatching)
  deriving DecidableEq, Repr

/-- Modelled from the spec: a constant of an untyped tree. -/
inductive UntypedValue
  | number (num : BigDecimal)
  | string (string : String)
  | bool (value : Bool)
  | null
  deriving DecidableEq, Repr

/-- Modelled from the spec: a leaf of a static untyped tree, a constant or a parameter. -/
inductive StaticUntypedItem
  | const (value : UntypedValue)
  | param (index : Nat)
  deriving DecidableEq, Repr

/-- Modelled from the spec: the tree of a literal expression, leaves joined by operations. -/
inductive StaticUntypedTree
  | item (item : StaticUntypedItem)
  | operation (left : StaticUntypedTree) (op : Operation) (right : StaticUntypedTree)
  deriving DecidableEq, Repr

/-- Modelled from the spec: the unsupported features the builder names. -/
inductive Feature
  | nationalStringLiteral | hexStringLiteral | timeInterval
  deriving DecidableEq, Repr

/-- Modelled from the spec: the analyzer's errors. -/
inductive AnalysisError
  | schemaDoesNotExist (name : String)
  | tableDoesNotExist (name : String)
  | tableNamingError (name : String)
  | schemaNamingError (name : String)
  | columnNotFound (name : String)
  | columnCantBeReferenced (name : String)
  | syntaxError (message : String)
  | undefinedFunction (operation : Operation)
  | featureNotSupported (feature : Feature)
  deriving DecidableEq, Repr

end IsomorphicDb.QueryAnalyzer

import Mathlib.Data.List.Basic

/-! The part of the external parser's AST (`sql_ast`) that the model reads, with its printers. -/

namespace IsomorphicDb.SqlAst

instance decEqExcept {ε α : Type} [DecidableEq ε] [DecidableEq α] : DecidableEq (Except ε α)
  | .error a, .error b => decidable_of_iff (a = b) (by simp)
  | .ok a, .ok b => decidable_of_iff (a = b) (by simp)
  | .error _, .ok _ => isFalse (by simp)
  | .ok _, .error _ => isFalse (by simp)

structure Ident where
  value : String
  quoteStyle : Option Char
  deriving DecidableEq, Repr

def Ident.display (ident : Ident) : Option String :=
  match ident.quoteStyle with
  | some q =>
    if q = '"' ∨ q = '\x27' ∨ q = '\x60' then some (q.toString ++ ident.value ++ q.toString)
    else if q = '[' then some ("[" ++ ident.value ++ "]")
    else none
  | none => some ident.value

structure ObjectName where
  idents : List Ident
  deriving DecidableEq, Repr

def ObjectName.display (object : ObjectName) : Option String :=
  (object.idents.mapM Ident.display).map (String.intercalate ".")

@[simp] lemma display_unquoted (value : String) :
    Ident.display ⟨value, none⟩ = some value := rfl

@[simp] lemma display_single (ident : Ident) :
    ObjectName.display ⟨[ident]⟩ = ident.display := by
  cases h : ident.display <;>
    simp [ObjectName.display, List.mapM, List.mapM.loop, h, String.intercalate, String.intercalate.go]

inductive DataType
  | char (len : Option UInt64)
  | varchar (len : Option UInt64)
  | uuid
  | clob (len : UInt64)
  | binary (len : UInt64)
  | varbinary (len : UInt64)
  | blob (len : UInt64)
  | decimal (precision scale : Option UInt64)
  | float (precision : Option UInt64)
  | smallInt
  | int
  | bigInt
  | real
  | double
  | boolean
  | date
  | time
  | timestamp
  | interval
  | regclass
  | text
  | bytea
  | custom (name : ObjectName)
  | array (elements : DataType)
  deriving DecidableEq, Repr

structure BigDecimal where
  intVal : Int
  scale : Int
  deriving DecidableEq, Repr

inductive DateTimeField
  | year | month | day | hour | minute | second
  deriving DecidableEq, Repr

inductive Value
  | number (num : BigDecimal)
  | singleQuotedString (string : String)
  | nationalStringLiteral (string : String)
  | hexStringLiteral (string : String)
  | boolean (boolean : Bool)
  | interval (value : String) (leadingField : Option DateTimeField)
      (leadingPrecision : Option UInt64) (lastField : Option DateTimeField)
      (fractionalSecondsPrecision : Option UInt64)
  | null
  deriving DecidableEq, Repr

inductive BinaryOperator
  | plus | minus | multiply | divide | modulus | stringConcat
  | gt | lt | gtEq | ltEq | eq | notEq
  | and | or | like | notLike
  | bitwiseOr | bitwiseAnd | bitwiseXor | bitwiseShiftLeft | bitwiseShiftRight
  deriving DecidableEq, Repr

inductive UnaryOperator
  | plus | minus | not
  deriving DecidableEq, Repr

inductive Expr
  | identifier (ident : Ident)
  | wildcard
  | qualifiedWildcard (idents : List Ident)
  | compoundIdentifier (idents : List Ident)
  | isNull (expr : Expr)
  | isNotNull (expr : Expr)
  | between (expr : Expr) (negated : Bool) (low high : Expr)
  | binaryOp (left : Expr) (op : BinaryOperator) (right : Expr)
  | unaryOp (op : UnaryOperator) (expr : Expr)
  | cast (expr : Expr) (dataType : DataType)
  | nested (expr : Expr)
  | value (value : Value)
  | typedString (dataType : DataType) (value : String)
  deriving DecidableEq, Repr

end IsomorphicDb.SqlAst

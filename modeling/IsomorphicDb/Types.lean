import IsomorphicDb.SqlAst
import Mathlib.Tactic.DeriveFintype

/-! SQL types, their families, the persisted encoding and the conversions to and from them. -/

namespace IsomorphicDb.Types

open SqlAst

inductive SqlTypeFamily
  | bool | string | smallInt | integer | bigInt | real | double
  deriving DecidableEq, Fintype, Repr

structure IncomparableSqlTypeFamilies where
  left : SqlTypeFamily
  right : SqlTypeFamily
  deriving DecidableEq, Repr

namespace SqlTypeFamily

def isFloat (family : SqlTypeFamily) : Bool :=
  family == .real || family == .double

def isInt (family : SqlTypeFamily) : Bool :=
  family == .smallInt || family == .integer || family == .bigInt

def compare (self other : SqlTypeFamily) : Except IncomparableSqlTypeFamilies SqlTypeFamily :=
  if self.isFloat && other.isFloat then
    if self == other then .ok self
    else if self == .real && other == .double then .ok other
    else .ok self
  else if self.isInt && other.isInt then
    if self == other then .ok self
    else if self == .smallInt && other == .integer || other == .bigInt then .ok other
    else .ok self
  else if self.isFloat && other.isInt then .ok self
  else if self.isInt && other.isFloat then .ok other
  else if self != other then .error ⟨self, other⟩
  else .ok self

end SqlTypeFamily

inductive Num
  | smallInt | integer | bigInt | real | double
  deriving DecidableEq, Repr

inductive Str
  | const | var
  deriving DecidableEq, Repr

inductive SqlType
  | bool
  | str (len : UInt64) (kind : Str)
  | num (num : Num)
  deriving DecidableEq, Repr

namespace SqlType

def family : SqlType → SqlTypeFamily
  | .bool => .bool
  | .str .. => .string
  | .num .smallInt | .num .integer | .num .bigInt => .integer
  | .num .real | .num .double => .real

def smallInt : SqlType := .num .smallInt
def integer : SqlType := .num .integer
def bigInt : SqlType := .num .bigInt
def real : SqlType := .num .real
def doublePrecision : SqlType := .num .double
def char (len : UInt64) : SqlType := .str len .const
def varChar (len : UInt64) : SqlType := .str len .var

def typeId : SqlType → UInt64
  | .bool => 0
  | .str _ .const => 1
  | .str _ .var => 2
  | .num .smallInt => 3
  | .num .integer => 4
  | .num .bigInt => 5
  | .num .real => 6
  | .num .double => 7

def fromTypeId (typeId charsLen : UInt64) : Option SqlType :=
  match typeId with
  | 0 => some .bool
  | 1 => some (char charsLen)
  | 2 => some (varChar charsLen)
  | 3 => some smallInt
  | 4 => some integer
  | 5 => some bigInt
  | 6 => some real
  | 7 => some doublePrecision
  | _ => none

def charsLen : SqlType → Option UInt64
  | .str len _ => some len
  | _ => none

end SqlType

structure NotSupportedType
  deriving DecidableEq, Repr

def SqlType.tryFrom : DataType → Except NotSupportedType SqlType
  | .smallInt => .ok smallInt
  | .int => .ok integer
  | .bigInt => .ok bigInt
  | .char len => .ok (char (len.getD 255))
  | .varchar len => .ok (varChar (len.getD 255))
  | .boolean => .ok .bool
  | _ => .error ⟨⟩

/-- Missing from src/: the variants of `pg_wire::PgType` that the conversion produces. -/
inductive PgType
  | bool | char | varChar | smallInt | integer | bigInt
  deriving DecidableEq, Repr

def SqlType.intoPgType : SqlType → Option PgType
  | .bool => some .bool
  | .str _ .const => some .char
  | .str _ .var => some .varChar
  | .num .smallInt => some .smallInt
  | .num .integer => some .integer
  | .num .bigInt => some .bigInt
  | .num .real | .num .double => none

namespace SqlType

@[simp] lemma fromTypeId_typeId (t : SqlType) : fromTypeId t.typeId (t.charsLen.getD 0) = some t := by
  rcases t with _ | ⟨len, _ | _⟩ | (_ | _ | _ | _ | _) <;> rfl

lemma le_seven {id : UInt64} (h : id ≤ 7) :
    id = 0 ∨ id = 1 ∨ id = 2 ∨ id = 3 ∨ id = 4 ∨ id = 5 ∨ id = 6 ∨ id = 7 := by
  have hb : id.toBitVec ≤ 7#64 := h
  have key : ∀ k : UInt64, id.toBitVec = k.toBitVec → id = k := fun _ => UInt64.eq_of_toBitVec_eq
  have : id.toBitVec = 0#64 ∨ id.toBitVec = 1#64 ∨ id.toBitVec = 2#64 ∨ id.toBitVec = 3#64 ∨
      id.toBitVec = 4#64 ∨ id.toBitVec = 5#64 ∨ id.toBitVec = 6#64 ∨ id.toBitVec = 7#64 := by
    bv_omega
  rcases this with h | h | h | h | h | h | h | h <;> simp only [key _ h] <;> decide

lemma fromTypeId_of_le_seven {id : UInt64} (len : UInt64) (h : id ≤ 7) :
    ∃ t, fromTypeId id len = some t ∧ t.typeId = id ∧
      t.charsLen = if id = 1 ∨ id = 2 then some len else none := by
  rcases le_seven h with rfl | rfl | rfl | rfl | rfl | rfl | rfl | rfl <;>
    exact ⟨_, rfl, rfl, by simp [charsLen, char, varChar, smallInt, integer, bigInt, real, doublePrecision]⟩

theorem type_id_round_trip :
    (∀ t : SqlType, fromTypeId t.typeId (t.charsLen.getD 0) = some t) ∧
    ∀ id len : UInt64, id ≤ 7 → ∃ t, fromTypeId id len = some t ∧ t.typeId = id ∧
      t.charsLen = if id = 1 ∨ id = 2 then some len else none :=
  ⟨fromTypeId_typeId, fun _ len h => fromTypeId_of_le_seven len h⟩

theorem type_id_round_trip_var_char :
    (2 : UInt64) ≤ 7 ∧ ∃ t, fromTypeId 2 40 = some t ∧ t.typeId = 2 ∧
      t.charsLen = if (2 : UInt64) = 1 ∨ (2 : UInt64) = 2 then some 40 else none :=
  ⟨by decide, type_id_round_trip.2 2 40 (by decide)⟩

lemma tryFrom_eq_ok {d : DataType} {t : SqlType} (h : tryFrom d = .ok t) :
    t = smallInt ∨ t = integer ∨ t = bigInt ∨ (∃ n, t = char n) ∨ (∃ n, t = varChar n) ∨ t = .bool := by
  cases d <;> simp only [tryFrom, Except.ok.injEq, reduceCtorEq] at h <;> subst h <;> simp

theorem tryFrom_wire_encodable (d : DataType) (t : SqlType) (h : tryFrom d = .ok t) :
    t ≠ .num .real ∧ t ≠ .num .double ∧ t.typeId ≤ 5 ∧ t.intoPgType.isSome ∧
      ((fromTypeId t.typeId (t.charsLen.getD 0)).bind intoPgType).isSome := by
  rw [fromTypeId_typeId]
  rcases tryFrom_eq_ok h with rfl | rfl | rfl | ⟨n, rfl⟩ | ⟨n, rfl⟩ | rfl <;>
    simp [char, varChar, smallInt, integer, bigInt, typeId, intoPgType]

theorem tryFrom_wire_encodable_varchar :
    tryFrom (.varchar none) = .ok (varChar 255) ∧
      varChar 255 ≠ .num .real ∧ varChar 255 ≠ .num .double ∧ (varChar 255).typeId ≤ 5 ∧
      (varChar 255).intoPgType.isSome ∧
      ((fromTypeId (varChar 255).typeId ((varChar 255).charsLen.getD 0)).bind intoPgType).isSome :=
  ⟨rfl, tryFrom_wire_encodable (.varchar none) _ rfl⟩

end SqlType

end IsomorphicDb.Types

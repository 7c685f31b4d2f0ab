import IsomorphicDb.QueryAnalyzer.UntypedTree

/-! `StaticTreeBuilder`: the trees of INSERT values and the errors it reports. -/

namespace IsomorphicDb.QueryAnalyzer.StaticTreeBuilder

open SqlAst

/-- Modelled from the spec: what the builder calls outside its file, the operator table of
`OperationMapper`, `parse_param_index` and the printer of an expression, as parameters. -/
structure Collaborators where
  binaryOperation : BinaryOperator → Operation
  parseParamIndex : String → Option Nat
  displayExpr : Expr → String

variable (ctx : Collaborators) (original : String)

def ident (ident : Ident) : Except AnalysisError StaticUntypedTree :=
  match ctx.parseParamIndex ident.value with
  | some index => .ok (.item (.param index))
  | none => .error (.columnCantBeReferenced ident.value)

def value : Value → Except AnalysisError StaticUntypedTree
  | .number num => .ok (.item (.const (.number num)))
  | .singleQuotedString string => .ok (.item (.const (.string string)))
  | .nationalStringLiteral _ => .error (.featureNotSupported .nationalStringLiteral)
  | .hexStringLiteral _ => .error (.featureNotSupported .hexStringLiteral)
  | .boolean boolean => .ok (.item (.const (.bool boolean)))
  | .interval .. => .error (.featureNotSupported .timeInterval)
  | .null => .ok (.item (.const .null))

def op (operator : BinaryOperator) (left right : Except AnalysisError StaticUntypedTree) :
    Except AnalysisError StaticUntypedTree :=
  match left, right with
  | .ok leftItem, .ok rightItem => .ok (.operation leftItem (ctx.binaryOperation operator) rightItem)
  | _, _ => .error (.undefinedFunction (ctx.binaryOperation operator))

def syntaxErrorText (expr : Expr) : String :=
  "Syntax error in \x27" ++ original ++ "\x27 around \x27" ++ ctx.displayExpr expr ++ "\x27"

def innerBuild : Expr → Except AnalysisError StaticUntypedTree
  | .value v => value v
  | .identifier i => ident ctx i
  | .binaryOp left operator right => op ctx operator (innerBuild left) (innerBuild right)
  | expr => .error (.syntaxError (syntaxErrorText ctx original expr))

def buildFrom (rootExpr : Expr) : Except AnalysisError StaticUntypedTree :=
  innerBuild ctx original rootExpr

inductive StaticImage : Expr → StaticUntypedTree → Prop
  | number (num : BigDecimal) : StaticImage (.value (.number num)) (.item (.const (.number num)))
  | string (string : String) :
      StaticImage (.value (.singleQuotedString string)) (.item (.const (.string string)))
  | boolean (boolean : Bool) : StaticImage (.value (.boolean boolean)) (.item (.const (.bool boolean)))
  | null : StaticImage (.value .null) (.item (.const .null))
  | param (ident : Ident) (index : Nat) (h : ctx.parseParamIndex ident.value = some index) :
      StaticImage (.identifier ident) (.item (.param index))
  | binaryOp {left right : Expr} {leftTree rightTree : StaticUntypedTree} (operator : BinaryOperator) :
      StaticImage left leftTree → StaticImage right rightTree →
      StaticImage (.binaryOp left operator right)
        (.operation leftTree (ctx.binaryOperation operator) rightTree)

variable {ctx}

lemma op_eq_ok {operator : BinaryOperator} {left right : Except AnalysisError StaticUntypedTree}
    {tree : StaticUntypedTree} :
    op ctx operator left right = .ok tree ↔ ∃ leftTree rightTree, left = .ok leftTree ∧
      right = .ok rightTree ∧ .operation leftTree (ctx.binaryOperation operator) rightTree = tree := by
  unfold op
  split <;> simp_all

lemma ident_eq_ok {i : Ident} {tree : StaticUntypedTree} :
    ident ctx i = .ok tree ↔ StaticImage ctx (.identifier i) tree := by
  unfold ident
  split <;> rename_i h
  · simp only [Except.ok.injEq]
    exact ⟨fun e => e ▸ .param _ _ h, fun | .param _ _ h' => by simp_all⟩
  · simp only [reduceCtorEq, false_iff]
    rintro ⟨⟩
    simp_all

lemma value_eq_ok {v : Value} {tree : StaticUntypedTree} :
    value v = .ok tree ↔ StaticImage ctx (.value v) tree := by
  cases v <;> simp only [value, Except.ok.injEq, reduceCtorEq, false_iff]
  all_goals first
    | rintro ⟨⟩
    | exact ⟨fun h => by subst h; constructor, by rintro ⟨⟩; rfl⟩

theorem buildFrom_eq_ok_iff (e : Expr) (tree : StaticUntypedTree) :
    buildFrom ctx original e = .ok tree ↔ StaticImage ctx e tree := by
  unfold buildFrom
  induction e generalizing tree with
  | identifier i => exact ident_eq_ok
  | value v => exact value_eq_ok
  | binaryOp left operator right ihl ihr =>
    rw [innerBuild, op_eq_ok]
    constructor
    · rintro ⟨leftTree, rightTree, hl, hr, rfl⟩
      exact .binaryOp operator ((ihl _).mp hl) ((ihr _).mp hr)
    · rintro ⟨⟩
      exact ⟨_, _, (ihl _).mpr ‹_›, (ihr _).mpr ‹_›, rfl⟩
  | _ => simp only [innerBuild, reduceCtorEq, false_iff]; rintro ⟨⟩

variable (ctx)

def rootError : Expr → Option AnalysisError
  | .binaryOp _ operator _ => some (.undefinedFunction (ctx.binaryOperation operator))
  | .value (.nationalStringLiteral _) => some (.featureNotSupported .nationalStringLiteral)
  | .value (.hexStringLiteral _) => some (.featureNotSupported .hexStringLiteral)
  | .value (.interval ..) => some (.featureNotSupported .timeInterval)
  | .value _ => none
  | .identifier i =>
    if ctx.parseParamIndex i.value = none then some (.columnCantBeReferenced i.value) else none
  | expr => some (.syntaxError (syntaxErrorText ctx original expr))

variable {ctx}

lemma op_eq_error {operator : BinaryOperator} {left right : Except AnalysisError StaticUntypedTree}
    {err : AnalysisError} (h : op ctx operator left right = .error err) :
    err = .undefinedFunction (ctx.binaryOperation operator) := by
  unfold op at h
  split at h <;> simp_all

theorem buildFrom_error_at_root (e : Expr) (err : AnalysisError)
    (h : buildFrom ctx original e = .error err) : rootError ctx original e = some err := by
  unfold buildFrom at h
  cases e with
  | binaryOp left operator right => rw [innerBuild] at h; rw [rootError, op_eq_error h]
  | value v => cases v <;> simp_all [innerBuild, value, rootError]
  | identifier i =>
    simp only [innerBuild, ident] at h
    split at h <;> simp_all [rootError]
  | _ => simp_all [innerBuild, rootError]

theorem buildFrom_error_at_root_nested :
    buildFrom ⟨fun o => if o = .minus then .arithmetic .sub else .arithmetic .add, fun _ => none,
        fun _ => "col"⟩ "insert"
        (.binaryOp (.value (.number ⟨1, 0⟩)) .minus (.binaryOp (.identifier ⟨"col", none⟩) .plus
          (.value .null))) = .error (.undefinedFunction (.arithmetic .sub)) ∧
      rootError ⟨fun o => if o = .minus then .arithmetic .sub else .arithmetic .add, fun _ => none,
        fun _ => "col"⟩ "insert"
        (.binaryOp (.value (.number ⟨1, 0⟩)) .minus (.binaryOp (.identifier ⟨"col", none⟩) .plus
          (.value .null))) = some (.undefinedFunction (.arithmetic .sub)) :=
  ⟨rfl, buildFrom_error_at_root _ _ _ rfl⟩

end IsomorphicDb.QueryAnalyzer.StaticTreeBuilder

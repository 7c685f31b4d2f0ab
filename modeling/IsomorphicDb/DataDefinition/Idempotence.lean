import IsomorphicDb.DataDefinition.Refinement

/-! Schema changes under `IF [NOT] EXISTS` are idempotent on tidy catalogs. -/

namespace IsomorphicDb.DataDefinition

def SchemaChange.isConditional : SchemaChange → Bool
  | .createSchema query => query.ifNotExists
  | .dropSchemas query => query.ifExists
  | .createTable query => query.ifNotExists
  | .dropTables query => query.ifExists

namespace Catalog
open Definition SystemSchemaPlanner

def Shrinks (c c' : State) : Prop := ∀ r ∈ c'.records, r ∈ c.records

section Drops

variable {α : Type} (gone : State → α → Prop) {g : State → α → Except ExecutionError State}
  (hmono : ∀ c c' x, Shrinks c c' → gone c x → gone c' x)
include hmono

lemma foldlM_removes (hdrop : ∀ c x c', g c x = .ok c' → Shrinks c c' ∧ gone c' x) :
    ∀ (l : List α) (c c' : State), l.foldlM g c = .ok c' → Shrinks c c' ∧ ∀ x ∈ l, gone c' x
  | [], c, c', h => by cases h; exact ⟨fun _ h => h, nofun⟩
  | x :: l, c, c', h => by
    rw [List.foldlM_cons] at h
    cases hx : g c x with
    | error => rw [hx] at h; cases h
    | ok c₁ =>
      rw [hx] at h
      obtain ⟨hsub, hgone⟩ := hdrop c x c₁ hx
      obtain ⟨hsub', hl⟩ := foldlM_removes hdrop l c₁ c' h
      refine ⟨fun r hr => hsub r (hsub' r hr), ?_⟩
      rintro y (_ | ⟨_, hy⟩)
      · exact hmono _ _ _ hsub' hgone
      · exact hl y hy

end Drops

lemma foldlM_of_gone {α : Type} (gone : State → α → Prop) {g : State → α → Except ExecutionError State}
    (hskip : ∀ c x, gone c x → g c x = .ok c) :
    ∀ (l : List α) (c : State), (∀ x ∈ l, gone c x) → l.foldlM g c = .ok c
  | [], _, _ => rfl
  | x :: l, c, h => by
    rw [List.foldlM_cons, hskip c x (h x (.head _))]
    exact foldlM_of_gone gone hskip l c fun y hy => h y (.tail _ hy)

lemma shrinks_removeObject (c : State) (path : List String) : Shrinks c (c.removeObject path) :=
  fun _ h => (List.mem_filter.mp h).1

variable {c c' : State}

lemma dropSchema_gone {cascade : Bool} {schemaName : String}
    (h : Intent.dropSchema cascade true c schemaName = .ok c') :
    Shrinks c c' ∧ .schema schemaName ∉ c'.records := by
  unfold Intent.dropSchema at h
  split_ifs at h with hs <;> cases h
  · exact ⟨shrinks_removeObject _ _, by simp [State.removeObject, Record.objectPath, List.isPrefixOf]⟩
  · exact ⟨fun _ h => h, by simpa using hs⟩

lemma dropTable_gone {schemaName tableName : String}
    (h : Intent.dropTable true c schemaName tableName = .ok c') :
    Shrinks c c' ∧ (.schema schemaName ∈ c'.records → .table schemaName tableName ∉ c'.records) := by
  unfold Intent.dropTable at h
  split_ifs at h with hs ht <;> cases h
  · exact ⟨shrinks_removeObject _ _,
      fun _ => by simp [State.removeObject, Record.objectPath, List.isPrefixOf]⟩
  · exact ⟨fun _ h => h, fun _ => by simpa using ht⟩
  · exact ⟨fun _ h => h, fun h => absurd h (by simpa using hs)⟩

lemma intent_idempotent {s : SchemaChange} (hs : s.isConditional = true)
    (h : intent s c = .ok c') : intent s c' = .ok c' := by
  rcases s with ⟨schemaName, ifNotExists⟩ | ⟨schemaNames, cascade, ifExists⟩ |
    ⟨fullTableName, columnDefs, ifNotExists⟩ | ⟨fullTableNames, cascade, ifExists⟩ <;>
    simp only [SchemaChange.isConditional] at hs <;> subst hs
  · simp only [intent, Intent.createSchema] at h ⊢
    split_ifs at h <;> cases h <;> simp_all [State.addSchema]
  · obtain ⟨-, hgone⟩ := foldlM_removes (fun c (n : SchemaName) => .schema n.asRef ∉ c.records)
      (fun _ _ _ hsub hn h => hn (hsub _ h)) (fun _ _ _ h => dropSchema_gone h) _ _ _ h
    exact foldlM_of_gone (fun c (n : SchemaName) => .schema n.asRef ∉ c.records)
      (fun _ _ hn => by simp [Intent.dropSchema, hn]) _ _ hgone
  · simp only [intent, Intent.createTable] at h ⊢
    split_ifs at h <;> cases h <;> simp_all [State.addTable]
  · obtain ⟨-, hgone⟩ := foldlM_removes
      (fun c (f : FullTableName) => .schema f.schema ∈ c.records → .table f.schema f.table ∉ c.records)
      (fun _ _ _ hsub hf hs ht => hf (hsub _ hs) (hsub _ ht)) (fun _ _ _ h => dropTable_gone h) _ _ _ h
    refine foldlM_of_gone
      (fun c (f : FullTableName) => .schema f.schema ∈ c.records → .table f.schema f.table ∉ c.records)
      (fun c f hf => ?_) _ _ hgone
    by_cases hs : Record.schema f.schema ∈ c.records <;> simp [Intent.dropTable, hs, hf]

theorem conditional_schema_change_idempotent (s : SchemaChange) (hs : s.isConditional = true) (c : State)
    (hc : Tidy c) :
    (applyOperation (schemaChangePlan s) c >>= applyOperation (schemaChangePlan s)) =
      applyOperation (schemaChangePlan s) c := by
  rw [applyOperation_eq_intent s c hc]
  cases h : intent s c with
  | error => rfl
  | ok c' => exact (applyOperation_eq_intent s c' (hc.intent h)).trans (intent_idempotent hs h)

theorem conditional_schema_change_idempotent_drop_two :
    (SchemaChange.dropSchemas ⟨[⟨"schema"⟩, ⟨"other_schema"⟩], false, true⟩).isConditional = true ∧
      Tidy ⟨["schema"], [], [.schema "schema"]⟩ ∧
      (applyOperation (schemaChangePlan (.dropSchemas ⟨[⟨"schema"⟩, ⟨"other_schema"⟩], false, true⟩))
          ⟨["schema"], [], [.schema "schema"]⟩ >>=
        applyOperation (schemaChangePlan (.dropSchemas ⟨[⟨"schema"⟩, ⟨"other_schema"⟩], false, true⟩))) =
        applyOperation (schemaChangePlan (.dropSchemas ⟨[⟨"schema"⟩, ⟨"other_schema"⟩], false, true⟩))
          ⟨["schema"], [], [.schema "schema"]⟩ :=
  have hc : Tidy ⟨["schema"], [], [.schema "schema"]⟩ :=
    ⟨⟨by simp, by simp, by simp, by simp, by simp⟩, by simp⟩
  ⟨rfl, hc,
    conditional_schema_change_idempotent (.dropSchemas ⟨[⟨"schema"⟩, ⟨"other_schema"⟩], false, true⟩) rfl _ hc⟩

end Catalog

end IsomorphicDb.DataDefinition

import IsomorphicDb.DataDefinition.CrashSafety
import IsomorphicDb.DataDefinition.Intent
import IsomorphicDb.DataDefinition.Objects

/-! Each step touches only its own schema, so racing sub-programs serialize schema by schema. -/

namespace IsomorphicDb.DataDefinition

def Record.schemaName : Record → String
  | .schema schemaName | .table schemaName _ | .column schemaName .. => schemaName

namespace Record

@[simp] lemma schemaName_schema (s : String) : (Record.schema s).schemaName = s := rfl
@[simp] lemma schemaName_table (s t : String) : (Record.table s t).schemaName = s := rfl
@[simp] lemma schemaName_column (s t n : String) (ty : Types.SqlType) :
    (Record.column s t n ty).schemaName = s := rfl

@[simp] lemma objectPath_head (r : Record) : r.objectPath.head? = some r.schemaName := by
  cases r <;> rfl

lemma head_of_dependsOn {r : Record} {path : List String} (h : r.dependsOn path = true) :
    path.head? = some r.schemaName := by
  cases r <;> simp only [dependsOn, Bool.or_eq_true, beq_iff_eq, reduceCtorEq] at h <;>
    rcases h with rfl | rfl <;> rfl

lemma schemaName_of_isColumnOf {r : Record} {s t : String} (h : r.isColumnOf s t = true) :
    r.schemaName = s := by
  cases r <;> simp_all [isColumnOf]

end Record

namespace Catalog

open Definition SystemSchemaPlanner

def State.restrict (c : State) (s : String) : State :=
  ⟨c.folders.filter (· == s), c.files.filter (·.1 == s), c.records.filter (·.schemaName == s)⟩

/-- Modelled from the spec: a sub-program run alone up to its first failed step; the state
it leaves. -/
def runPrefix (kind : Kind) : State → List Step → State
  | c, [] => c
  | c, step :: steps =>
    match exec kind c step with
    | some c' => runPrefix kind c' steps
    | none => c

/-- Modelled from the spec: the steps of several sub-programs in the order of `trace`, each
tagged with its sub-program; once a step of a sub-program fails, its later steps do not run. -/
def runInterleaved (kind : Nat → Kind) : State → List Nat → List (Nat × Step) → State
  | c, _, [] => c
  | c, stopped, (i, step) :: trace =>
    if i ∈ stopped then runInterleaved kind c stopped trace
    else
      match exec (kind i) c step with
      | some c' => runInterleaved kind c' stopped trace
      | none => runInterleaved kind c (i :: stopped) trace

def thread (trace : List (Nat × Step)) (i : Nat) : List Step :=
  (trace.filter (·.1 == i)).map (·.2)

def subProgramSchema (p : List Step) : Option String :=
  p.head?.bind (·.objectPath.head?)

lemma filter_and_eq_of_imp {α : Type} {p q : α → Bool} {l : List α} (h : ∀ x, p x = false → q x = false) :
    l.filter (fun x => q x && p x) = l.filter q :=
  List.filter_congr fun x _ => by cases hp : p x <;> simp [hp, h x]

lemma any_filter_eq_of_imp {α : Type} {p q : α → Bool} {l : List α} (h : ∀ x, p x = true → q x = true) :
    (l.filter q).any p = l.any p := by
  rw [Bool.eq_iff_iff]
  simp only [List.any_eq_true, List.mem_filter]
  exact ⟨fun ⟨x, hx, hp⟩ => ⟨x, hx.1, hp⟩, fun ⟨x, hx, hp⟩ => ⟨x, ⟨hx, h x hp⟩, hp⟩⟩

section Restrict

variable {kind : Kind} {c c' : State} {step : Step} {s t : String}

lemma holds_restrict {path : List String} (hs : path.head? = some s) (object : SystemObject) :
    (c.restrict s).holds object path = c.holds object path := by
  rcases path with _ | ⟨a, _ | ⟨b, _ | _⟩⟩ <;> cases object <;> simp_all [State.holds, State.restrict]

lemma restrict_exec_of_ne (ht : step.objectPath.head? ≠ some t) (he : exec kind c step = some c') :
    c'.restrict t = c.restrict t := by
  cases step <;> simp only [Step.objectPath, Record.objectPath_head, List.head?_cons, ne_eq,
    Option.some.injEq] at ht
  case checkExistence => rw [(exec_checkExistence_eq_some.mp he).1]
  case checkDependants => rw [(exec_checkDependants_eq_some.mp he).1]
  case removeFolder =>
    rw [(exec_removeFolder_eq_some.mp he).2]
    simp only [State.restrict, List.filter_filter, State.mk.injEq]
    exact ⟨filter_and_eq_of_imp (by simp_all), filter_and_eq_of_imp (by simp_all), trivial⟩
  all_goals obtain rfl := Option.some.inj he
  case removeDependants =>
    simp only [State.restrict, List.filter_filter, State.mk.injEq, true_and]
    refine ⟨filter_and_eq_of_imp fun file hf => ?_, filter_and_eq_of_imp fun r hr => ?_⟩
    · obtain rfl : [file.1] = _ := by simpa using hf
      simp_all
    · have := Record.head_of_dependsOn (by simpa using hr)
      simp_all
  case removeColumns =>
    simp only [State.restrict, List.filter_filter, State.mk.injEq, true_and]
    exact filter_and_eq_of_imp fun r hr => by simp_all [Record.schemaName_of_isColumnOf (by simpa using hr)]
  all_goals simp [State.restrict, List.filter_cons, ht]
  all_goals exact filter_and_eq_of_imp fun x hx => by simp_all

lemma exec_restrict (hs : step.objectPath.head? = some s) :
    (exec kind c step).map (·.restrict s) = exec kind (c.restrict s) step := by
  cases step <;> simp only [Step.objectPath, Record.objectPath_head, List.head?_cons,
    Option.some.injEq] at hs
  case checkExistence => simp only [exec_checkExistence, holds_restrict hs]; split <;> rfl
  case checkDependants object path =>
    have hany : (c.restrict s).records.any (·.dependsOn path) = c.records.any (·.dependsOn path) :=
      any_filter_eq_of_imp fun r hr => by
        simpa [hs] using (Record.head_of_dependsOn hr).symm.trans hs
    simp only [exec_checkDependants, hany]
    split <;> rfl
  case removeFolder name onlyIfEmpty =>
    subst hs
    have hany : (c.restrict name).files.any (·.1 == name) = c.files.any (·.1 == name) :=
      any_filter_eq_of_imp fun _ h => h
    simp only [exec_removeFolder, hany]
    split
    · rfl
    · simp [State.restrict, List.filter_filter, Bool.and_comm]
  all_goals try subst hs
  all_goals simp [State.restrict, List.filter_filter, Bool.and_comm]

lemma exec_restrict_congr {d : State} (hs : step.objectPath.head? = some s)
    (hcd : c.restrict s = d.restrict s) :
    (exec kind c step).map (·.restrict s) = (exec kind d step).map (·.restrict s) := by
  rw [exec_restrict hs, exec_restrict hs, hcd]

end Restrict

section Trace

variable (kind : Nat → Kind) (schemaOf : Nat → String)

@[simp] lemma thread_nil (i : Nat) : thread [] i = [] := rfl

@[simp] lemma thread_cons (j i : Nat) (step : Step) (trace : List (Nat × Step)) :
    thread ((i, step) :: trace) j = if i = j then step :: thread trace j else thread trace j := by
  by_cases h : i = j <;> simp [thread, List.filter_cons, h]

lemma restrict_runInterleaved_of_ne (u : String) :
    ∀ (trace : List (Nat × Step)) (c : State) (stopped : List Nat),
      (∀ x ∈ trace, x.2.objectPath.head? = some (schemaOf x.1)) → (∀ x ∈ trace, schemaOf x.1 ≠ u) →
      (runInterleaved kind c stopped trace).restrict u = c.restrict u
  | [], _, _, _, _ => rfl
  | (i, step) :: trace, c, stopped, hsteps, hu => by
    have ih := fun c stopped => restrict_runInterleaved_of_ne u trace c stopped
      (fun x hx => hsteps x (.tail _ hx)) (fun x hx => hu x (.tail _ hx))
    simp only [runInterleaved]
    split
    · exact ih c stopped
    · cases hc : exec (kind i) c step with
      | none => exact ih c _
      | some c' =>
        have hstep := hsteps _ (List.mem_cons_self _ _)
        exact (ih c' stopped).trans (restrict_exec_of_ne (by simpa [hstep] using hu _ (List.mem_cons_self _ _)) hc)

lemma restrict_runInterleaved (j : Nat) :
    ∀ (trace : List (Nat × Step)) (c d : State) (stopped : List Nat),
      (∀ x ∈ trace, x.2.objectPath.head? = some (schemaOf x.1)) →
      (∀ x ∈ trace, schemaOf x.1 = schemaOf j → x.1 = j) →
      c.restrict (schemaOf j) = d.restrict (schemaOf j) →
      (runInterleaved kind c stopped trace).restrict (schemaOf j) =
        (if j ∈ stopped then d else runPrefix (kind j) d (thread trace j)).restrict (schemaOf j)
  | [], c, d, stopped, _, _, hcd => by split <;> exact hcd
  | (i, step) :: trace, c, d, stopped, hsteps, hj, hcd => by
    have ih := fun c d stopped => restrict_runInterleaved j trace c d stopped
      (fun x hx => hsteps x (.tail _ hx)) (fun x hx => hj x (.tail _ hx))
    have hstep : step.objectPath.head? = some (schemaOf i) := hsteps _ (List.mem_cons_self _ _)
    simp only [runInterleaved, thread_cons]
    by_cases hi : i ∈ stopped
    · rw [if_pos hi, ih c d stopped hcd]
      by_cases hij : i = j
      · subst hij; simp [hi]
      · simp [hij]
    rw [if_neg hi]
    by_cases hij : i = j
    · subst hij
      have hloc : (exec (kind i) c step).map (·.restrict (schemaOf i)) =
          (exec (kind i) d step).map (·.restrict (schemaOf i)) := exec_restrict_congr hstep hcd
      cases hc : exec (kind i) c step with
      | none =>
        have hd : exec (kind i) d step = none := by simpa [hc] using hloc.symm
        simp [ih c d (i :: stopped) hcd, hi, runPrefix, hd]
      | some c' =>
        obtain ⟨d', hd, hcd'⟩ := Option.map_eq_some'.mp (hloc.symm.trans (by rw [hc]; rfl))
        simp [ih c' d' stopped hcd'.symm, hi, runPrefix, hd]
    · have hne : schemaOf i ≠ schemaOf j := fun h => hij (hj _ (List.mem_cons_self _ _) h)
      cases hc : exec (kind i) c step with
      | none => simp [ih c d (i :: stopped) hcd, hij, Ne.symm hij]
      | some c' =>
        have hc' := restrict_exec_of_ne (by simpa [hstep] using hne) hc
        simp [ih c' d stopped (hc'.trans hcd), hij]

end Trace

lemma restrict_run_of_ne {kind : Kind} {t : String} :
    ∀ {c c' : State} {p : List Step}, (∀ step ∈ p, step.objectPath.head? ≠ some t) →
      run kind c p = some c' → c'.restrict t = c.restrict t
  | _, _, [], _, h => by cases h; rfl
  | _, _, _ :: _, hp, h => by
    obtain ⟨c₁, h₁, h⟩ := Option.bind_eq_some.mp h
    exact (restrict_run_of_ne (fun x hx => hp x (.tail _ hx)) h).trans
      (restrict_exec_of_ne (hp _ (List.mem_cons_self _ _)) h₁)

lemma applyOperation_restrict_of_ne {op : SystemOperation} {c c' : State} {t : String}
    (hop : ∀ p ∈ op.steps, ∀ step ∈ p, step.objectPath.head? ≠ some t) (h : applyOperation op c = .ok c') :
    c'.restrict t = c.restrict t := by
  refine foldlM_invariant (fun c' => c'.restrict t = c.restrict t) op.steps
    (fun p hp c₁ c₂ h₁ h₂ => ?_) c c' rfl h
  cases ha : applySteps op.kind op.skipStepsIf c₁ p <;> rw [ha] at h₂ <;> cases h₂
  · exact (restrict_run_of_ne (hop p hp) (applySteps_eq_applied.mp ha)).trans h₁
  · exact h₁

lemma exists_mem_of_forall₂ {α β : Type} {R : α → β → Prop} {a : α} :
    ∀ {l₁ : List α} {l₂ : List β}, List.Forall₂ R l₁ l₂ → a ∈ l₁ → ∃ b ∈ l₂, R a b
  | _, _, .nil, h => absurd h (List.not_mem_nil _)
  | _, _, .cons hab hl, h => (List.mem_cons.mp h).elim (fun e => ⟨_, List.mem_cons_self _ _, e ▸ hab⟩)
      fun h => let ⟨b, hb, r⟩ := exists_mem_of_forall₂ hl h; ⟨b, .tail _ hb, r⟩

theorem schema_change_leaves_other_schemas (s : SchemaChange) (c c' : State) (t : String)
    (ht : ∀ path ∈ s.targets, path.head? ≠ some t) (h : applyOperation (schemaChangePlan s) c = .ok c') :
    c'.restrict t = c.restrict t := by
  refine applyOperation_restrict_of_ne (fun p hp step hstep => ?_) h
  obtain ⟨path, hpath, hacts, -⟩ := exists_mem_of_forall₂ (plan_actsOn s) hp
  obtain ⟨hne, rest, hrest⟩ := hacts step hstep
  obtain ⟨x, xs, hx⟩ := List.exists_cons_of_ne_nil hne
  subst hrest
  simpa [hx] using ht _ hpath

theorem schema_change_leaves_other_schemas_drop_table :
    (∀ path ∈ SchemaChange.targets (.dropTables ⟨[⟨"a", "t"⟩], false, false⟩), path.head? ≠ some "b") ∧
      applyOperation (schemaChangePlan (.dropTables ⟨[⟨"a", "t"⟩], false, false⟩))
        ⟨["a", "b"], [("a", "t"), ("b", "u")], [.table "a" "t", .table "b" "u", .schema "a", .schema "b"]⟩ =
        .ok ⟨["a", "b"], [("b", "u")], [.table "b" "u", .schema "a", .schema "b"]⟩ ∧
      State.restrict ⟨["a", "b"], [("b", "u")], [.table "b" "u", .schema "a", .schema "b"]⟩ "b" =
        State.restrict ⟨["a", "b"], [("a", "t"), ("b", "u")],
          [.table "a" "t", .table "b" "u", .schema "a", .schema "b"]⟩ "b" :=
  ⟨by decide, by decide,
    schema_change_leaves_other_schemas (.dropTables ⟨[⟨"a", "t"⟩], false, false⟩) _ _ "b" (by decide)
      (by decide)⟩

lemma consistent_iff_restrict {c : State} : Consistent c ↔ ∀ s, Consistent (c.restrict s) := by
  refine ⟨fun hc s => ?_, fun h => ?_⟩
  · constructor <;> simp only [State.restrict, List.mem_filter, beq_iff_eq, Record.schemaName_schema,
      Record.schemaName_table, Record.schemaName_column, and_imp]
    · exact fun x h hx => ⟨hc.1 x h, hx⟩
    · exact fun x y h hx => ⟨hc.2 x y h, hx⟩
    · exact fun x y h hx => ⟨hc.3 x y h, hx⟩
    · exact fun x y n ty h hx => ⟨hc.4 x y n ty h, hx⟩
    · exact fun x y h hx => ⟨hc.5 x y h, hx⟩
  · constructor
    · exact fun x hx => (List.mem_filter.mp ((h x).1 x (List.mem_filter.mpr ⟨hx, by simp⟩))).1
    · exact fun x y hx => (List.mem_filter.mp ((h x).2 x y (List.mem_filter.mpr ⟨hx, by simp⟩))).1
    · exact fun x y hx => (List.mem_filter.mp ((h x).3 x y (List.mem_filter.mpr ⟨hx, by simp⟩))).1
    · exact fun x y n ty hx => (List.mem_filter.mp ((h x).4 x y n ty (List.mem_filter.mpr ⟨hx, by simp⟩))).1
    · exact fun x y hx => (List.mem_filter.mp ((h x).5 x y (List.mem_filter.mpr ⟨hx, by simp⟩))).1

lemma SafeRun.consistent {kind : Kind} {c : State} {p : List Step} (h : SafeRun kind c p) : Consistent c := by
  cases p <;> [exact h; exact h.1]

lemma SafeRun.consistent_runPrefix {kind : Kind} :
    ∀ {c : State} {p q : List Step}, SafeRun kind c p → q <+: p → Consistent (runPrefix kind c q)
  | _, _, [], h, _ => h.consistent
  | _, [], _ :: _, _, hq => absurd hq (by simp)
  | c, _ :: _, step :: q, h, hq => by
    obtain ⟨rfl, hq'⟩ := List.cons_prefix_cons.mp hq
    simp only [runPrefix]
    split
    · exact SafeRun.consistent_runPrefix (h.2 _ ‹_›) hq'
    · exact h.1

lemma objectPath_head_of_mem_plan {s : SchemaChange} {p : List Step} (hp : p ∈ (schemaChangePlan s).steps) :
    ∃ schemaName, subProgramSchema p = some schemaName ∧
      ∀ step ∈ p, step.objectPath.head? = some schemaName := by
  rcases mem_steps hp with ⟨_, _, -, rfl⟩ | ⟨_, cascade, _, _, -, -, rfl⟩ | ⟨_, _, _, -, rfl⟩ |
    ⟨_, _, _, _, -, -, rfl⟩
  · simp [subProgramSchema, Step.objectPath]
  · cases cascade <;> simp [subProgramSchema, forSchema, Step.objectPath]
  · simp [subProgramSchema, columnRecord, Step.objectPath, Record.objectPath]
  · simp [subProgramSchema, forTable, Step.objectPath]

/-- Modelled from the spec: sub-programs of schema changes racing in the executor. Sub-program
`i` is one of the plan of `change i`, and `trace` interleaves the first steps of each, in
their order; a sub-program that the trace cuts short is one that has not finished. -/
structure Race where
  change : Nat → SchemaChange
  program : Nat → List Step
  trace : List (Nat × Step)
  planned : ∀ i ∈ trace.map Prod.fst, program i ∈ (schemaChangePlan (change i)).steps
  ordered : ∀ i ∈ trace.map Prod.fst, thread trace i <+: program i

namespace Race

variable (race : Race)

def kind (i : Nat) : Kind := (schemaChangePlan (race.change i)).kind

def run (c : State) : State := runInterleaved race.kind c [] race.trace

def InDistinctSchemas : Prop :=
  ∀ i ∈ race.trace.map Prod.fst, ∀ j ∈ race.trace.map Prod.fst,
    subProgramSchema (race.program i) = subProgramSchema (race.program j) → i = j

instance decidableInDistinctSchemas : Decidable race.InDistinctSchemas :=
  inferInstanceAs (Decidable (∀ i ∈ race.trace.map Prod.fst, ∀ j ∈ race.trace.map Prod.fst,
    subProgramSchema (race.program i) = subProgramSchema (race.program j) → i = j))

def schemaOf (i : Nat) : String := (subProgramSchema (race.program i)).getD ""

lemma subProgramSchema_eq {i : Nat} (hi : i ∈ race.trace.map Prod.fst) :
    subProgramSchema (race.program i) = some (race.schemaOf i) := by
  obtain ⟨n, hn, -⟩ := objectPath_head_of_mem_plan (race.planned i hi)
  simp [schemaOf, hn]

lemma objectPath_head {x : Nat × Step} (hx : x ∈ race.trace) :
    x.2.objectPath.head? = some (race.schemaOf x.1) := by
  have hi : x.1 ∈ race.trace.map Prod.fst := List.mem_map_of_mem _ hx
  obtain ⟨n, hn, hsteps⟩ := objectPath_head_of_mem_plan (race.planned _ hi)
  have hmem : x.2 ∈ thread race.trace x.1 := List.mem_map.mpr ⟨x, List.mem_filter.mpr ⟨hx, by simp⟩, rfl⟩
  rw [hsteps _ ((race.ordered _ hi).mem hmem), ← hn, race.subProgramSchema_eq hi]

lemma restrict_run (hdistinct : race.InDistinctSchemas) (c : State) {i : Nat}
    (hi : i ∈ race.trace.map Prod.fst) :
    (race.run c).restrict (race.schemaOf i) =
      (runPrefix (race.kind i) c (thread race.trace i)).restrict (race.schemaOf i) := by
  refine (restrict_runInterleaved race.kind race.schemaOf i race.trace c c [] (fun _ => race.objectPath_head)
    (fun x hx h => hdistinct _ (List.mem_map_of_mem _ hx) _ hi ?_) rfl).trans (by simp)
  rw [race.subProgramSchema_eq (List.mem_map_of_mem _ hx), race.subProgramSchema_eq hi, h]

lemma restrict_run_of_ne (c : State) {u : String} (hu : ∀ i ∈ race.trace.map Prod.fst, race.schemaOf i ≠ u) :
    (race.run c).restrict u = c.restrict u :=
  restrict_runInterleaved_of_ne race.kind race.schemaOf u race.trace c [] (fun _ => race.objectPath_head)
    fun _ hx => hu _ (List.mem_map_of_mem _ hx)

end Race

theorem race_in_distinct_schemas_serializes (race : Race) (hdistinct : race.InDistinctSchemas) (c : State)
    (hc : Consistent c) :
    Consistent (race.run c) ∧
      ∀ i ∈ race.trace.map Prod.fst, ∀ s, subProgramSchema (race.program i) = some s →
        (race.run c).restrict s = (runPrefix (race.kind i) c (thread race.trace i)).restrict s := by
  refine ⟨consistent_iff_restrict.mpr fun u => ?_, fun i hi s hs => ?_⟩
  · by_cases hu : ∃ i ∈ race.trace.map Prod.fst, race.schemaOf i = u
    · obtain ⟨i, hi, rfl⟩ := hu
      rw [race.restrict_run hdistinct c hi]
      have hsafe := schema_change_plan_runs_safely _ _ (race.planned i hi) c hc
      exact consistent_iff_restrict.mp (hsafe.consistent_runPrefix (race.ordered i hi)) _
    · push_neg at hu
      rw [race.restrict_run_of_ne c hu]
      exact consistent_iff_restrict.mp hc u
  · obtain rfl : race.schemaOf i = s := Option.some.inj ((race.subProgramSchema_eq hi).symm.trans hs)
    exact race.restrict_run hdistinct c hi

def createSchemaRacingCreateTable : Race where
  change i :=
    if i = 0 then .createSchema ⟨⟨"b"⟩, false⟩ else .createTable ⟨⟨"a", "t"⟩, [⟨"id", .bool⟩], false⟩
  program i := if i = 0 then [.checkExistence .schema ["b"], .createFolder "b", .createRecord (.schema "b")]
    else [.checkExistence .schema ["a"], .checkExistence .table ["a", "t"], .createFile "a" "t",
      .createRecord (.table "a" "t"), .createRecord (.column "a" "t" "id" .bool)]
  trace := [(1, .checkExistence .schema ["a"]), (0, .checkExistence .schema ["b"]),
    (1, .checkExistence .table ["a", "t"]), (0, .createFolder "b"), (1, .createFile "a" "t"),
    (0, .createRecord (.schema "b")), (1, .createRecord (.table "a" "t")),
    (1, .createRecord (.column "a" "t" "id" .bool))]
  planned := by decide
  ordered := by decide

theorem race_in_distinct_schemas_serializes_two_schemas :
    createSchemaRacingCreateTable.InDistinctSchemas ∧ Consistent ⟨["a"], [], [.schema "a"]⟩ ∧
      Consistent (createSchemaRacingCreateTable.run ⟨["a"], [], [.schema "a"]⟩) ∧
      ∀ i ∈ createSchemaRacingCreateTable.trace.map Prod.fst, ∀ s,
        subProgramSchema (createSchemaRacingCreateTable.program i) = some s →
        (createSchemaRacingCreateTable.run ⟨["a"], [], [.schema "a"]⟩).restrict s =
          (runPrefix (createSchemaRacingCreateTable.kind i) ⟨["a"], [], [.schema "a"]⟩
            (thread createSchemaRacingCreateTable.trace i)).restrict s :=
  have hc : Consistent ⟨["a"], [], [.schema "a"]⟩ := ⟨by simp, by simp, by simp, by simp, by simp⟩
  ⟨by decide, hc, race_in_distinct_schemas_serializes _ (by decide) _ hc⟩

def createTableRacingDropSchema : Race where
  change i :=
    if i = 0 then .createTable ⟨⟨"a", "t"⟩, [], false⟩ else .dropSchemas ⟨[⟨"a"⟩], true, false⟩
  program i := if i = 0 then [.checkExistence .schema ["a"], .checkExistence .table ["a", "t"],
      .createFile "a" "t", .createRecord (.table "a" "t")]
    else forSchema true ⟨"a"⟩
  trace := [(0, .checkExistence .schema ["a"]), (0, .checkExistence .table ["a", "t"])] ++
    (forSchema true ⟨"a"⟩).map (1, ·) ++ [(0, .createFile "a" "t"), (0, .createRecord (.table "a" "t"))]
  planned := by decide
  ordered := by decide

theorem same_schema_race_breaks_consistency :
    ¬ createTableRacingDropSchema.InDistinctSchemas ∧ Consistent ⟨["a"], [], [.schema "a"]⟩ ∧
      createTableRacingDropSchema.run ⟨["a"], [], [.schema "a"]⟩ = ⟨[], [("a", "t")], [.table "a" "t"]⟩ ∧
      ¬ Consistent ⟨[], [("a", "t")], [.table "a" "t"]⟩ :=
  ⟨by decide, ⟨by simp, by simp, by simp, by simp, by simp⟩, by decide,
    fun h => by simpa using h.table_schema "a" "t" (by simp)⟩

def atomicTrace (blocks : List (Nat × List Step)) : List (Nat × Step) :=
  blocks.flatMap fun block => block.2.map (block.1, ·)

lemma runInterleaved_block (kind : Nat → Kind) (i : Nat) :
    ∀ (p : List Step) (rest : List (Nat × Step)) (c : State) (stopped : List Nat),
      ∃ stopped', runInterleaved kind c stopped (p.map (i, ·) ++ rest) =
        runInterleaved kind (if i ∈ stopped then c else runPrefix (kind i) c p) stopped' rest
  | [], _, c, stopped => ⟨stopped, by split <;> rfl⟩
  | step :: p, rest, c, stopped => by
    by_cases hi : i ∈ stopped
    · obtain ⟨stopped', h⟩ := runInterleaved_block kind i p rest c stopped
      exact ⟨stopped', by simpa [runInterleaved, hi] using h⟩
    cases hc : exec (kind i) c step with
    | none =>
      obtain ⟨stopped', h⟩ := runInterleaved_block kind i p rest c (i :: stopped)
      exact ⟨stopped', by simpa [runInterleaved, hi, hc, runPrefix] using h⟩
    | some c' =>
      obtain ⟨stopped', h⟩ := runInterleaved_block kind i p rest c' stopped
      exact ⟨stopped', by simpa [runInterleaved, hi, hc, runPrefix] using h⟩

theorem atomic_sub_programs_keep_catalog_consistent (change : Nat → SchemaChange)
    (blocks : List (Nat × List Step))
    (hplanned : ∀ block ∈ blocks, ∃ p ∈ (schemaChangePlan (change block.1)).steps, block.2 <+: p)
    (c : State) (hc : Consistent c) :
    Consistent (runInterleaved (fun i => (schemaChangePlan (change i)).kind) c [] (atomicTrace blocks)) := by
  generalize ([] : List Nat) = stopped
  induction blocks generalizing c stopped with
  | nil => exact hc
  | cons block blocks ih =>
    obtain ⟨stopped', h⟩ := runInterleaved_block (fun i => (schemaChangePlan (change i)).kind) block.1
      block.2 (atomicTrace blocks) c stopped
    have hrun : Consistent (runPrefix (schemaChangePlan (change block.1)).kind c block.2) := by
      obtain ⟨p, hp, hpre⟩ := hplanned block (List.mem_cons_self _ _)
      exact (schema_change_plan_runs_safely _ p hp c hc).consistent_runPrefix hpre
    rw [atomicTrace, List.flatMap_cons, ← atomicTrace, h]
    exact ih (fun b hb => hplanned b (.tail _ hb)) _ (by split <;> assumption) stopped'

theorem atomic_sub_programs_keep_catalog_consistent_create_then_drop :
    (∀ block ∈ [(0, createTableRacingDropSchema.program 0), (1, createTableRacingDropSchema.program 1)],
      ∃ p ∈ (schemaChangePlan (createTableRacingDropSchema.change block.1)).steps, block.2 <+: p) ∧
      Consistent ⟨["a"], [], [.schema "a"]⟩ ∧
      Consistent (runInterleaved (fun i => (schemaChangePlan (createTableRacingDropSchema.change i)).kind)
        ⟨["a"], [], [.schema "a"]⟩ []
        (atomicTrace [(0, createTableRacingDropSchema.program 0), (1, createTableRacingDropSchema.program 1)])) :=
  have hc : Consistent ⟨["a"], [], [.schema "a"]⟩ := ⟨by simp, by simp, by simp, by simp, by simp⟩
  ⟨by decide, hc, atomic_sub_programs_keep_catalog_consistent createTableRacingDropSchema.change _ (by decide) _ hc⟩

end Catalog

end IsomorphicDb.DataDefinition

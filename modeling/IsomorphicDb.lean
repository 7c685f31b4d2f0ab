import IsomorphicDb.SqlAst
import IsomorphicDb.Types
import IsomorphicDb.Definition
import IsomorphicDb.DataDefinition.Operations
import IsomorphicDb.DataDefinition.SchemaPlanner
import IsomorphicDb.DataDefinition.StepOrder
import IsomorphicDb.DataDefinition.Objects
import IsomorphicDb.DataDefinition.Catalog
import IsomorphicDb.DataDefinition.CrashSafety
import IsomorphicDb.DataDefinition.Executor
import IsomorphicDb.DataDefinition.Intent
import IsomorphicDb.DataDefinition.SchemaIsolation
import IsomorphicDb.DataDefinition.Refinement
import IsomorphicDb.DataDefinition.Undo
import IsomorphicDb.DataDefinition.Idempotence
import IsomorphicDb.QueryAnalyzer.UntypedTree
import IsomorphicDb.QueryAnalyzer.StaticTreeBuilder
import IsomorphicDb.ReadQuery.Executor

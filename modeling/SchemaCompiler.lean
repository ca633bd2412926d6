import SchemaCompiler.Access.Generator
import SchemaCompiler.CommandLine.Execution
import SchemaCompiler.Main
import SchemaCompiler.Migration.Compiler
import SchemaCompiler.Migration.History
import SchemaCompiler.Project
import SchemaCompiler.Proofs.Access.Identifiers
import SchemaCompiler.Proofs.Database.Rebuild
import SchemaCompiler.Proofs.Migration.Additions
import SchemaCompiler.Proofs.Migration.ColumnDrops
import SchemaCompiler.Proofs.Migration.Comments
import SchemaCompiler.Proofs.Migration.Creation
import SchemaCompiler.Proofs.Migration.Dependents
import SchemaCompiler.Proofs.Migration.FileNames
import SchemaCompiler.Proofs.Migration.ForeignKeyIndexes
import SchemaCompiler.Proofs.Migration.Lifecycle
import SchemaCompiler.Proofs.Migration.Losses
import SchemaCompiler.Proofs.Migration.Numbering
import SchemaCompiler.Proofs.Migration.ReferentialOrder
import SchemaCompiler.Proofs.Migration.RenameReach
import SchemaCompiler.Proofs.Migration.RenameRun
import SchemaCompiler.Proofs.Migration.Sections
import SchemaCompiler.Proofs.Migration.Snapshots
import SchemaCompiler.Proofs.Migration.Staging
import SchemaCompiler.Proofs.Schema.IndexNames
import SchemaCompiler.Proofs.Schema.Junctions
import SchemaCompiler.Proofs.Schema.Partition
import SchemaCompiler.Proofs.Schema.Snapshot
import SchemaCompiler.Proofs.Schema.TypeNames
import SchemaCompiler.Proofs.Schema.Uniqueness
import SchemaCompiler.Proofs.Sql.Decoding
import SchemaCompiler.Schema.Ddl
import SchemaCompiler.Schema.Diagram
import SchemaCompiler.Schema.Format

import EntitySql.Session
import EntitySql.Schema.Derive
import EntitySql.Proofs.Independence
import EntitySql.Proofs.Meaning
import EntitySql.Proofs.Filtering
import EntitySql.Proofs.Reading
import EntitySql.Proofs.Acceptance
import EntitySql.Proofs.Composition
import EntitySql.Proofs.LogicalPosition
import EntitySql.Proofs.ContextRun
import EntitySql.Proofs.Session.Conversation
import EntitySql.Proofs.RoundTrip
import EntitySql.Proofs.DepthLimit
import EntitySql.Proofs.FieldAttributes
import EntitySql.Proofs.UpperLevels
import EntitySql.Proofs.Metadata
import EntitySql.Proofs.ListReading
import EntitySql.Proofs.WrittenColumns
import EntitySql.Proofs.Refusal
import EntitySql.Proofs.Decoding
import EntitySql.Proofs.StringMatch
import EntitySql.Proofs.ColumnLists
import EntitySql.Proofs.ProcedureCall
import EntitySql.Proofs.IntegerReading
import EntitySql.Proofs.ExactLiteral
import EntitySql.Proofs.Settings
import EntitySql.Proofs.QuotedName

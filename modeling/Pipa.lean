import Pipa.Proofs.AssemblerConservation
import Pipa.Proofs.AssemblerIsolation
import Pipa.Proofs.McpServerListener
import Pipa.Proofs.McpServerScope
import Pipa.Proofs.McpQueueSafety
import Pipa.Proofs.QueryRunnerOutcome
import Pipa.Proofs.RedisQuoting
import Pipa.Proofs.RedisRoundTrip
import Pipa.Proofs.ResetSqlMeaning
import Pipa.Proofs.SqlPolicySoundness
import Pipa.Proofs.TableFilterSafety
import Pipa.Proofs.TableMutationsOutcome
import Pipa.Proofs.TableDdlStatements
import Pipa.Proofs.TableSqlAgreement
import Pipa.Proofs.TableSqlFilterAgreement
import Pipa.Proofs.BinlogPages
import Pipa.Proofs.BinlogImportLifecycle
import Pipa.Proofs.MySqlQueryProtocol
import Pipa.Proofs.QueryRegistrySafety
import Pipa.Proofs.BinlogProgress
import Pipa.Proofs.WorkspaceBaseline
import Pipa.Proofs.WorkspaceDetached
import Pipa.Proofs.WorkspaceActive
import Pipa.Proofs.ConnectionEngines
import Pipa.Proofs.SqlLibrary
import Pipa.Proofs.WorkspaceOwnership
import Pipa.Proofs.RedisConfirmation
import Pipa.Proofs.QuerySessionCoalescing
import Pipa.Proofs.AssemblerRowsQuery
import Pipa.Proofs.ResetSqlFiltered
import Pipa.Proofs.TableWorkspaceConfirmation
import Pipa.Proofs.TableActionsDirty
import Pipa.Proofs.TableActionsTargets
import Pipa.Proofs.RedisWorkspaceDatabases
import Pipa.Proofs.SqlPolicyStructure
import Pipa.Proofs.TableFilterOperands
import Pipa.Proofs.ResetSqlLiterals
import Pipa.Proofs.SqlPolicyPanics
import Pipa.Proofs.SqlSelectionStatements
import Pipa.Proofs.SqlReviewCount
import Pipa.Proofs.TableMutationsOrder
import Pipa.Proofs.QueryTabsProtection
import Pipa.Proofs.ConnectionDrawerSchemas
import Pipa.Proofs.TableDdlComments
import Pipa.Proofs.MutationBinding
import Pipa.Proofs.BinlogTotals
import Pipa.Proofs.BinlogDetails
import Pipa.Proofs.BinlogLimits
import Pipa.Proofs.BinlogCancellation
import Pipa.Proofs.BinlogReasons
import Pipa.Proofs.RedisGrammar
import Pipa.Proofs.RedisLimits
import Pipa.Proofs.RedisMaps
import Pipa.Proofs.RedisKeys
import Pipa.Proofs.ResultExportTables
import Pipa.Proofs.ResultViewOrder
import Pipa.Proofs.TableExportTargets
import Pipa.Proofs.ResultExportInserts
import Pipa.Proofs.ResultExportJson
import Pipa.Proofs.JsonFormatting
import Pipa.Proofs.TableStructure
import Pipa.Proofs.BinlogTimeline
import Pipa.Proofs.BinlogRowImages
import Pipa.Proofs.RedisTitles
import Pipa.Proofs.Shortcuts
import Pipa.Proofs.QueryHistory
import Pipa.Proofs.SettingsRepository
import Pipa.Proofs.Bootstrap
import Pipa.Proofs.McpServiceRuns
import Pipa.Proofs.ConnectionBook
import Pipa.Proofs.RedisSession

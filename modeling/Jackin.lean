import Jackin.Workflow.Backup
import Jackin.Workflow.Cancellation
import Jackin.Workflow.Ownership
import Jackin.Workflow.Sessions
import Jackin.Workflow.Spool
import Jackin.Workflow.Launch
import Jackin.Workflow.Dispatch
import Jackin.Workflow.Digests
import Jackin.Coordinator.Spacing
import Jackin.Coordinator.Rollback
import Jackin.Coordinator.StateFiles
import Jackin.Coordinator.Retry
import Jackin.HostExport.Containment
import Jackin.Credentials.Swap
import Jackin.Config.Publication
import Jackin.Config.SchemaVersion
import Jackin.AccountMarkers.Publication
import Jackin.Attach.Server
import Jackin.Attach.Contextual
import Jackin.Attach.Transfers
import Jackin.Terminal.Cuts
import Jackin.Terminal.Paste
import Jackin.HostDaemon.Serve
import Jackin.UsageRelay.Proxy
import Jackin.Accounts.Launch
import Jackin.SafeRemove.Removal
import Jackin.WorkflowSpec.Inputs
import Jackin.Protocol.CredentialUpdate
import Jackin.Protocol.QuotaScope
import Jackin.Layout.Borders
import Jackin.Layout.Neighbours
import Jackin.Layout.Selection
import Jackin.Layout.WordTokens
import Jackin.Layout.PaneHomes
import Jackin.WorkflowSpec.Reach
import Jackin.WorkflowSpec.InputStore

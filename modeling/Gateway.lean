import Gateway.Execution.Eviction
import Gateway.Execution.Frozen
import Gateway.Execution.Receipts
import Gateway.Execution.Failure
import Gateway.Northbound.Carriage
import Gateway.Northbound.TabPublication
import Gateway.Execution.Queueing
import Gateway.Carrier.Revocation
import Gateway.Hub.Rotation
import Gateway.Hub.Foreign
import Gateway.Agent.SingleOwner
import Gateway.Agent.JobRuns
import Gateway.Agent.Pairing
import Gateway.Agent.Reconnect
import Gateway.Agent.Journals
import Gateway.Agent.Supervision
import Gateway.Maintenance.Audit
import Gateway.Hub.JobOutput
import Gateway.Agent.RetainedOutput
import Gateway.Agent.DirectoryPaging
import Gateway.Hub.RateLimit
import Gateway.Data.Reader
import Gateway.Maintenance.CoseKey

import Maintenant.Agent.Drain
import Maintenant.Agent.FlushOrder
import Maintenant.Agent.Shutdown
import Maintenant.Multihost.Freeze
import Maintenant.Multihost.Handled
import Maintenant.Alerting.Agreement
import Maintenant.Alerting.Resolution
import Maintenant.Alerting.Recipients
import Maintenant.Alerting.DeliveryOrder
import Maintenant.Heartbeats.Serializability
import Maintenant.Escalation.Termination
import Maintenant.Escalation.Cause
import Maintenant.Sessions.Ownership
import Maintenant.Uptime.HeartbeatReplay
import Maintenant.BatchDelete
import Maintenant.Uptime.Incidents
import Maintenant.Uptime.ContainerWindows
import Maintenant.Resources.Rollup
import Maintenant.Resources.AlertConfig
import Maintenant.Endpoints.Isolation
import Maintenant.Uptime.EndpointRetention
import Maintenant.Multihost.Redelivery
import Maintenant.Endpoints.Serializability
import Maintenant.Multihost.Enrollment
import Maintenant.Writer
import Maintenant.License
import Maintenant.Cve
import Maintenant.Updates.Fixes
import Maintenant.Posture
import Maintenant.Quota
import Maintenant.Certificates.Monitors
import Maintenant.Endpoints.CheckEngine
import Maintenant.Escalation.Overlap
import Maintenant.Posture.Score
import Maintenant.Sessions.Rate
import Maintenant.Rebind

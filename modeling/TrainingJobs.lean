import TrainingJobs.HostCall
import TrainingJobs.Main
import TrainingJobs.Session
import TrainingJobs.Proofs.Cluster.Backends
import TrainingJobs.Proofs.Cluster.Failures
import TrainingJobs.Proofs.Cluster.Handovers
import TrainingJobs.Proofs.Cluster.Interference
import TrainingJobs.Proofs.Cluster.Retry
import TrainingJobs.Proofs.Job.Build
import TrainingJobs.Proofs.Job.Counts
import TrainingJobs.Proofs.Job.Names
import TrainingJobs.Proofs.Status.Budget
import TrainingJobs.Proofs.Status.Messages
import TrainingJobs.Proofs.Status.Operator
import TrainingJobs.Proofs.Status.Phases
import TrainingJobs.Proofs.Status.Rules
import TrainingJobs.Proofs.Status.Waiting
import TrainingJobs.Proofs.Watch.Reports
import TrainingJobs.Proofs.Json.Record
import TrainingJobs.Proofs.Json.Text
import TrainingJobs.Proofs.Job.ReadBack
import TrainingJobs.Proofs.Job.Canonical
import TrainingJobs.Proofs.Job.Rendering
import TrainingJobs.Proofs.Elastic.Environment
import TrainingJobs.Proofs.Status.RoleNames
import TrainingJobs.Proofs.Status.Limits
import TrainingJobs.Proofs.Status.Renaming
import TrainingJobs.Proofs.Status.Silence
import TrainingJobs.Proofs.Text.Slug
import TrainingJobs.Proofs.Job.LegalNames
import TrainingJobs.Proofs.Job.Calls
import TrainingJobs.Proofs.Job.Acceptance
import TrainingJobs.Proofs.Job.Attempts
import TrainingJobs.Proofs.Job.Independence
import TrainingJobs.Proofs.Plan.Routing
import TrainingJobs.Proofs.Plan.Jobs
import TrainingJobs.Proofs.Job.MasterWorker
import TrainingJobs.Proofs.Elastic.Arguments
import TrainingJobs.Proofs.Elastic.NodeCount
import TrainingJobs.Proofs.Elastic.Overrides
import TrainingJobs.Proofs.Text.Numeral
import TrainingJobs.Proofs.Cluster.History
import TrainingJobs.Proofs.Job.OneByte
import TrainingJobs.Proofs.Json.Abridged
import TrainingJobs.Proofs.Plan.ReadBack

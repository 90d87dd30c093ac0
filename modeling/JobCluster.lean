import JobCluster.Coordinator.Monitor
import JobCluster.Main
import JobCluster.Proofs.Client.Waiting
import JobCluster.Proofs.Cluster.Loss
import JobCluster.Proofs.Coordinator.Assignment
import JobCluster.Proofs.Coordinator.Books
import JobCluster.Proofs.Coordinator.Lifecycle
import JobCluster.Proofs.Coordinator.Revival
import JobCluster.Proofs.Coordinator.Totals
import JobCluster.Service.Answer
import JobCluster.Worker.Run
import JobCluster.Proofs.Coordinator.Finality
import JobCluster.Proofs.Coordinator.Naming
import JobCluster.Proofs.Coordinator.Slots
import JobCluster.Proofs.Job.Progress
import JobCluster.Proofs.Coordinator.Barrier
import JobCluster.Proofs.Coordinator.Figures
import JobCluster.Proofs.Coordinator.Paging
import JobCluster.Proofs.File.Piece
import JobCluster.Proofs.Input.Splits
import JobCluster.Proofs.File.Path
import JobCluster.Proofs.File.System
import JobCluster.Proofs.Service.Preparation
import JobCluster.Proofs.Input.Lines
import JobCluster.Proofs.Input.Records
import JobCluster.Proofs.File.Tree
import JobCluster.Proofs.Input.Directory
import JobCluster.Proofs.Client.Agreement
import JobCluster.Proofs.Service.Version
import JobCluster.Proofs.Coordinator.Capacity
import JobCluster.Proofs.Coordinator.TrackerFigures
import JobCluster.Proofs.Coordinator.Independence
import JobCluster.Proofs.Coordinator.OwnCounts
import JobCluster.Proofs.Wire.RoundTrip
import JobCluster.Proofs.Coordinator.Summary
import JobCluster.Proofs.Job.Killing
import JobCluster.Proofs.Job.Stopping
import JobCluster.Proofs.Coordinator.Stopping
import JobCluster.Proofs.Job.Losses
import JobCluster.Proofs.Coordinator.Sweeping
import JobCluster.Proofs.Input.Literal
import JobCluster.Proofs.Service.Locality
import JobCluster.Proofs.File.Cut
import JobCluster.Proofs.Counters.Merge

import Rabia.Batching.Processor
import Rabia.Batching.Task
import Rabia.Cluster.Circulation
import Rabia.Cluster.Commit
import Rabia.Cluster.Deployed
import Rabia.Cluster.Deployment
import Rabia.Cluster.Finality
import Rabia.Cluster.Intake
import Rabia.Cluster.Integrity
import Rabia.Cluster.Phases
import Rabia.Cluster.Proposers
import Rabia.Cluster.Records
import Rabia.Cluster.Recovery
import Rabia.Cluster.Simulated
import Rabia.Cluster.Tcp
import Rabia.Cluster.Validity
import Rabia.Core.StringPool
import Rabia.Engine.Authenticity
import Rabia.Engine.Fresh
import Rabia.Engine.Leadership
import Rabia.Engine.Ledger
import Rabia.Engine.Loop
import Rabia.Engine.QuorumLoss
import Rabia.Engine.Requests
import Rabia.Engine.Tallies
import Rabia.Engine.Versions
import Rabia.Kvstore.Affected
import Rabia.Kvstore.Batch
import Rabia.Kvstore.BusLocks
import Rabia.Kvstore.Limits
import Rabia.Kvstore.Refinement
import Rabia.Kvstore.Subscribers
import Rabia.Kvstore.Versions
import Rabia.Network.Frame
import Rabia.Network.Monitor
import Rabia.Persistence.FileSystem
import Rabia.Smr.BankHistory
import Rabia.Smr.BankLedger
import Rabia.Smr.Counter
import Rabia.Smr.Replicas
import Rabia.Smr.Transfer
import Rabia.Testing.Accounting
import Rabia.Testing.FaultInjection
import Rabia.WeakMvc.Agreement
import Rabia.WeakMvc.Conjectures
import Rabia.WeakMvc.Invariant
import Rabia.Cluster.Durability

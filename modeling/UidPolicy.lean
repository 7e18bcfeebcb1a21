import UidPolicy.Command.Basic
import UidPolicy.Main
import UidPolicy.Memory.World
import UidPolicy.Proofs.Batch
import UidPolicy.Proofs.Batch.Calls
import UidPolicy.Proofs.Batch.Reported
import UidPolicy.Proofs.Bits
import UidPolicy.Proofs.ChainText
import UidPolicy.Proofs.Cli.Operands
import UidPolicy.Proofs.Cli.Spelling
import UidPolicy.Proofs.Command.Audit
import UidPolicy.Proofs.Command.ChainNames
import UidPolicy.Proofs.Command.Classification
import UidPolicy.Proofs.Command.Controllers
import UidPolicy.Proofs.Command.Handles
import UidPolicy.Proofs.Dependence
import UidPolicy.Proofs.Directory
import UidPolicy.Proofs.Discard.History
import UidPolicy.Proofs.Firewall.Algebra
import UidPolicy.Proofs.Firewall.Capacity
import UidPolicy.Proofs.Firewall.Change
import UidPolicy.Proofs.Firewall.Effect
import UidPolicy.Proofs.Firewall.EmptyEntries
import UidPolicy.Proofs.Firewall.Entries
import UidPolicy.Proofs.Firewall.Exact
import UidPolicy.Proofs.Firewall.History
import UidPolicy.Proofs.Firewall.Independence
import UidPolicy.Proofs.Firewall.Members
import UidPolicy.Proofs.Firewall.Mutation
import UidPolicy.Proofs.Firewall.Observed
import UidPolicy.Proofs.Firewall.Replace
import UidPolicy.Proofs.Firewall.StrayIndex
import UidPolicy.Proofs.Firewall.Verdict
import UidPolicy.Proofs.Initialisation.Ends
import UidPolicy.Proofs.Locks
import UidPolicy.Proofs.Memory.Clearing
import UidPolicy.Proofs.Memory.Run
import UidPolicy.Proofs.Memory.Setting
import UidPolicy.Proofs.Path
import UidPolicy.Proofs.Permissions
import UidPolicy.Proofs.Pinned.Access
import UidPolicy.Proofs.Pinned.Calls
import UidPolicy.Proofs.Pinned.Clients
import UidPolicy.Proofs.Pinned.Contents
import UidPolicy.Proofs.Pinned.Exclusion
import UidPolicy.Proofs.Pinned.Loading
import UidPolicy.Proofs.Pinned.Opening
import UidPolicy.Proofs.Pinned.Refinement
import UidPolicy.Proofs.Reasons.Agreement
import UidPolicy.Proofs.Reasons.Monotone
import UidPolicy.Proofs.Reasons.Order
import UidPolicy.Proofs.Reasons.System
import UidPolicy.Proofs.Reasons.Word
import UidPolicy.Proofs.Recorded
import UidPolicy.Proofs.Request
import UidPolicy.Proofs.Rule.Difference
import UidPolicy.Proofs.Rule.Stale
import UidPolicy.Proofs.Rule.Stored
import UidPolicy.Proofs.Separation
import UidPolicy.Proofs.Sizes
import UidPolicy.Proofs.Stats.Commands
import UidPolicy.Proofs.Stats.Protocol
import UidPolicy.Proofs.Stats.Selector
import UidPolicy.Proofs.Switch.Calls
import UidPolicy.Proofs.Switch.History
import UidPolicy.Proofs.Text.Numeral
import UidPolicy.Proofs.Text.Words
import UidPolicy.Proofs.Uninstall

import OpenAddressing.Cursor
import OpenAddressing.Editor
import OpenAddressing.Hashing
import OpenAddressing.Map.Construction
import OpenAddressing.Map.Dictionary
import OpenAddressing.Map.Text
import OpenAddressing.Map.Words
import OpenAddressing.Reentry.ActingKey
import OpenAddressing.Sizing.Rule
import OpenAddressing.Sizing.Text
import OpenAddressing.Table.WellFormed
import OpenAddressing.Value.Conversion
import OpenAddressing.Value.Text
import OpenAddressing.Proofs.ProbeSequence.Coverage
import OpenAddressing.Proofs.ProbeSequence.Iteration
import OpenAddressing.Proofs.Table.Search
import OpenAddressing.Proofs.Keyed
import OpenAddressing.Proofs.Table.WellFormed
import OpenAddressing.Proofs.Table.Mutation
import OpenAddressing.Proofs.Table.Rebuild
import OpenAddressing.Proofs.Value.Equality
import OpenAddressing.Proofs.Decimal.Canonical
import OpenAddressing.Proofs.Value.Encoding
import OpenAddressing.Proofs.Map.WellFormed
import OpenAddressing.Proofs.Map.Rebuild
import OpenAddressing.Proofs.Map.Exhaustion
import OpenAddressing.Proofs.Map.Dictionary
import OpenAddressing.Proofs.Table.Contents
import OpenAddressing.Proofs.Map.Refinement
import OpenAddressing.Proofs.Sizing.LoadFactor
import OpenAddressing.Proofs.Sizing.Transition
import OpenAddressing.Proofs.Map.Headroom
import OpenAddressing.Proofs.Map.LoadRun
import OpenAddressing.Proofs.Map.LoadBounds
import OpenAddressing.Proofs.Map.Oscillation
import OpenAddressing.Proofs.Map.Reinsertion
import OpenAddressing.Proofs.Map.InPlace
import OpenAddressing.Proofs.Map.Filling
import OpenAddressing.Proofs.Map.Presizing
import OpenAddressing.Proofs.Map.Growth
import OpenAddressing.Proofs.Map.Settling
import OpenAddressing.Proofs.Map.Collecting
import OpenAddressing.Proofs.Map.Construction
import OpenAddressing.Proofs.Cursor
import OpenAddressing.Proofs.Editor
import OpenAddressing.Proofs.Map.Traversal
import OpenAddressing.Proofs.Map.Exchange
import OpenAddressing.Proofs.Reentry.ReadOnly
import OpenAddressing.Proofs.Reentry.Catching

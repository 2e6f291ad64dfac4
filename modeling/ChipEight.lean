import ChipEight.Main
import ChipEight.Session
import ChipEight.Proofs.Effect
import ChipEight.Proofs.WellFormed
import ChipEight.Proofs.Actions
import ChipEight.Proofs.Invariant
import ChipEight.Proofs.Calls
import ChipEight.Proofs.Footprint
import ChipEight.Proofs.Sizes
import ChipEight.Proofs.TwoHosts
import ChipEight.Proofs.Schedule
import ChipEight.Proofs.FaultOnRecord
import ChipEight.Proofs.Waits
import ChipEight.Proofs.Timers
import ChipEight.Proofs.RandomBytes
import ChipEight.Proofs.WindowRuns
import ChipEight.Proofs.Closing
import ChipEight.Proofs.HostKeys
import ChipEight.Proofs.Loading
import ChipEight.Proofs.Picture
import ChipEight.Proofs.Edges
import ChipEight.Proofs.Superposition
import ChipEight.Proofs.Arithmetic
import ChipEight.Proofs.Transfer
import ChipEight.Proofs.Succession
import ChipEight.Proofs.Rates
import ChipEight.Proofs.Tracing
import ChipEight.Proofs.KeyMaps
import ChipEight.Proofs.Numerals
import ChipEight.Proofs.Mnemonics
import ChipEight.Proofs.Reports
import ChipEight.Proofs.RateLabels

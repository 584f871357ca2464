import Einsof.Base.Scan
import Einsof.Base.Machine
import Einsof.Base.Confinement
import Einsof.Base.Ledger
import Einsof.Base.Meter
import Einsof.Base.Refinement
import Einsof.Base.Fallible
import Einsof.Base.Lineage
import Einsof.Base.Codec
import Einsof.Base.Anchor
import Einsof.Base.Schedule
import Einsof.Base.Journal
import Einsof.Base.Tested
import Einsof.Base.Unwinding
import Einsof.Base.TryLock
import Einsof.Base.Winding
import Einsof.Base.Sourcing
import Einsof.Base.Term
import Einsof.Base.Retry
import Einsof.Tzimtzum.State
import Einsof.Tzimtzum.Actions
import Einsof.Tzimtzum.System
import Einsof.Tzimtzum.Invariants
import Einsof.Tzimtzum.Evolution
import Einsof.Tzimtzum.Soundness
import Einsof.Kernel.FiniteMaps
import Einsof.Kernel.Declassification
import Einsof.Kernel.Lifecycle
import Einsof.Kernel.Evidence
import Einsof.Kernel.Grants
import Einsof.Kernel.Isolation
import Einsof.Kernel.Residue
import Einsof.Kernel.Names
import Einsof.Kernel.Forest
import Einsof.Kernel.Authority
import Einsof.Kernel.Cascade
import Einsof.Kernel.Account
import Einsof.Kernel.Modes
import Einsof.Kernel.Order
import Einsof.Kernel.Admission
import Einsof.Kernel.Settling
import Einsof.Kernel.Delivery
import Einsof.Kernel.Noninterference
import Einsof.Kernel.Driver
import Einsof.Kernel.Consent
import Einsof.Kernel.Soundness
import Einsof.Kernel.Retry
import Einsof.Kernel.Shutdown
import Einsof.Kernel.Audit
import Einsof.Native.Preflight
import Einsof.Native.Recovery
import Einsof.Native.Transcript
import Einsof.Native.Crossing
import Einsof.Native.Sharing
import Einsof.Native.Observation
import Einsof.Native.History
import Einsof.Host.Recovery
import Einsof.Host.Terms
import Einsof.Host.Encoding
import Einsof.Host.Agreement
import Einsof.Host.Acceptance
import Einsof.Host.Refusals
import Einsof.Host.Histories

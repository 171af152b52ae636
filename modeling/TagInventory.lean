import TagInventory.Bench.Program
import TagInventory.Main
import TagInventory.Proofs.BufferRecord
import TagInventory.Proofs.Detection
import TagInventory.Proofs.Dispatch
import TagInventory.Proofs.Engine.Barrier
import TagInventory.Proofs.Engine.BoundedRun
import TagInventory.Proofs.Engine.BufferRead
import TagInventory.Proofs.Engine.Contents
import TagInventory.Proofs.Engine.ControlQueue
import TagInventory.Proofs.Engine.Correlation
import TagInventory.Proofs.Engine.Latch
import TagInventory.Proofs.Engine.Lockstep
import TagInventory.Proofs.Engine.Provenance
import TagInventory.Proofs.Engine.RawExecution
import TagInventory.Proofs.Engine.ReportOrder
import TagInventory.Proofs.Engine.Reports
import TagInventory.Proofs.Engine.Safety
import TagInventory.Proofs.Engine.Signals
import TagInventory.Proofs.FixedSize
import TagInventory.Proofs.ReadDelivery
import TagInventory.Proofs.ReadRecord
import TagInventory.Proofs.Resynchronization
import TagInventory.Proofs.SessionHistory
import TagInventory.Proofs.Tag.Comparison
import TagInventory.Proofs.Tag.History
import TagInventory.Proofs.Waiting.Delivery

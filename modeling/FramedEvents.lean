import FramedEvents.Flow.EventReader
import FramedEvents.Flow.Journal
import FramedEvents.Flow.Plan
import FramedEvents.Main
import FramedEvents.Wire.Buffer
import FramedEvents.Proofs.Wire.Corruption
import FramedEvents.Proofs.Chunk.Publishing
import FramedEvents.Proofs.Chunk.Cancelling
import FramedEvents.Proofs.Flow.Discipline
import FramedEvents.Proofs.Flow.Truncation
import FramedEvents.Proofs.Flow.Severing
import FramedEvents.Proofs.Flow.Latecomers
import FramedEvents.Proofs.Flow.Resolution
import FramedEvents.Proofs.Command.Counting
import FramedEvents.Proofs.Command.RoundTrip
import FramedEvents.Proofs.Wire.Appending
import FramedEvents.Proofs.Wire.Access
import FramedEvents.Proofs.Wire.Consumption
import FramedEvents.Proofs.Wire.Fetching
import FramedEvents.Proofs.Wire.Sending
import FramedEvents.Proofs.Wire.Rejecting
import FramedEvents.Proofs.Flow.Bounding
import FramedEvents.Proofs.Flow.Awaiting
import FramedEvents.Proofs.Wire.Cutting
import FramedEvents.Proofs.Chunk.Reading
import FramedEvents.Proofs.Command.Inspecting
import FramedEvents.Proofs.Flow.Releasing
import FramedEvents.Proofs.Flow.Reckoning

import Digitizer.Daemon
import Digitizer.Files.Tree
import Digitizer.Main
import Digitizer.Scripted.Detector
import Digitizer.Scripted.Ring
import Digitizer.Scripted.SetupChannel
import Digitizer.Scripted.Sink
import Digitizer.Touch.Run
import Digitizer.Proofs.Sequencing
import Digitizer.Proofs.Output.Reception
import Digitizer.Proofs.Output.Batches
import Digitizer.Proofs.Touch.Plan
import Digitizer.Proofs.Touch.Shown
import Digitizer.Proofs.Touch.WholeFrames
import Digitizer.Proofs.Touch.Slots
import Digitizer.Proofs.Touch.EventStream
import Digitizer.Proofs.Touch.SlotRefinement
import Digitizer.Proofs.Touch.PointerAgreement
import Digitizer.Proofs.Touch.Interrupted
import Digitizer.Proofs.Touch.LostReleases
import Digitizer.Proofs.Touch.PalmBlock
import Digitizer.Proofs.Touch.Disabled
import Digitizer.Proofs.Touch.Handover
import Digitizer.Proofs.Touch.PointerIsolation
import Digitizer.Proofs.Ring.Commands
import Digitizer.Proofs.Ring.Requests
import Digitizer.Proofs.Ring.Accounting
import Digitizer.Proofs.Ring.Recovery
import Digitizer.Proofs.Daemon.Milestones
import Digitizer.Proofs.Daemon.FrameOrder
import Digitizer.Proofs.Daemon.Detections
import Digitizer.Proofs.Daemon.Resets
import Digitizer.Proofs.Daemon.Polling
import Digitizer.Proofs.Touch.Effects
import Digitizer.Proofs.Touch.Inversion
import Digitizer.Proofs.Touch.Slotless
import Digitizer.Proofs.Config.Layering
import Digitizer.Proofs.Config.Relisting
import Digitizer.Scripted.Files
import Digitizer.Proofs.Config.Obstacles
import Digitizer.Proofs.Touch.RecentFrames
import Digitizer.Proofs.Touch.Addressing
import Digitizer.Proofs.Touch.Refusals
import Digitizer.Proofs.Touch.RepeatedDisable
import Digitizer.Proofs.Touch.Acquisition
import Digitizer.Proofs.Touch.Disappearances
import Digitizer.Proofs.Touch.Consultation
import Digitizer.Proofs.Ring.Rounds
import Digitizer.Proofs.Ring.Answers
import Digitizer.Proofs.Ring.Startup
import Digitizer.Proofs.Ring.Opening

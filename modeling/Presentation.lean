import Presentation.Session.Logging
import Presentation.Session.Recording
import Presentation.Session.Rehearsal
import Presentation.Proofs.Watch
import Presentation.Proofs.Surface.Protocol
import Presentation.Proofs.Vulkan.Aside
import Presentation.Proofs.Vulkan.Ledger
import Presentation.Proofs.Vulkan.Possession
import Presentation.Proofs.Vulkan.Succession
import Presentation.Proofs.Vulkan.Census
import Presentation.Proofs.Vulkan.SwapchainObjects
import Presentation.Proofs.Surface.Transition
import Presentation.Proofs.Vulkan.SurfaceObjects
import Presentation.Proofs.Vulkan.DeviceObjects
import Presentation.Proofs.Session.Slots
import Presentation.Proofs.Vulkan.Lifetimes
import Presentation.Proofs.Session.Ownership
import Presentation.Proofs.Surface.Failure
import Presentation.Proofs.Vulkan.Replacement
import Presentation.Proofs.Session.Replacement
import Presentation.Proofs.Vulkan.Frames
import Presentation.Proofs.Vulkan.FenceDiscipline
import Presentation.Proofs.Surface.Settlement
import Presentation.Proofs.Mark
import Presentation.Proofs.Vulkan.Explanation
import Presentation.Proofs.Vulkan.Negotiation
import Presentation.Proofs.Vulkan.Offer
import Presentation.Proofs.Surface.Account
import Presentation.Proofs.Likeness
import Presentation.Proofs.Surface.Likeness
import Presentation.Proofs.Surface.Episode
import Presentation.Proofs.Native.Stage
import Presentation.Proofs.Native.Oblivion
import Presentation.Proofs.Native.Custody
import Presentation.Proofs.Native.Balance
import Presentation.Proofs.Vulkan.Provenance
import Presentation.Proofs.Vulkan.Completion
import Presentation.Proofs.Vulkan.Steps
import Presentation.Proofs.Vulkan.Service
import Presentation.Proofs.Vulkan.Loss
import Presentation.Proofs.Vulkan.Retirement
import Presentation.Proofs.Bounds
import Presentation.Proofs.Vulkan.Forwarding
import Presentation.Proofs.Dispatch
import Presentation.Proofs.Session.Minimum
import Presentation.Proofs.Surface.Validation
import Presentation.Proofs.Surface.Resolution
import Presentation.Proofs.Surface.Restoration
import Presentation.Proofs.Vulkan.Survey
import Presentation.Proofs.Vulkan.Selection
import Presentation.Proofs.Vulkan.Snapshot
import Presentation.Proofs.Native.Rotation
import Presentation.Proofs.Vulkan.Alarm
import Presentation.Proofs.Vulkan.Reporting
import Presentation.Proofs.Log.Colour
import Presentation.Proofs.Log.Routing
import Presentation.Proofs.Calendar.Gregorian
import Presentation.Proofs.Calendar.Reading
import Presentation.Proofs.Surface.Audit

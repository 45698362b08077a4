import Giblet.YMsg.Picture
import Giblet.YMsg.PacketIsolation
import Giblet.YMsg.Assigned
import Giblet.YMsg.Presence
import Giblet.YMsg.Phases
import Giblet.YMsg.Blocking
import Giblet.YMsg.Grammar
import Giblet.YMsg.NullViews
import Giblet.YMsg.Separation
import Giblet.YMsg.RosterRequests
import Giblet.YMsg.ProfileNames
import Giblet.YMsg.Groups
import Giblet.YMsg.Enumerators
import Giblet.YMsg.Online
import Giblet.YMsg.BuilderLimit
import Giblet.YMsg.Signature
import Giblet.YMsg.BlockList
import Giblet.YMsg.Roster
import Giblet.YMsg.PumpIteration
import Giblet.Gloox.AuthenticationHandler
import Giblet.Gloox.Survival
import Giblet.YahooWeb.InsiderWebServer
import Giblet.CodeHook.HookSystem
import Giblet.CodeHook.Prefixes
import Giblet.CodeHook.Outcomes
import Giblet.CodeHook.Reuse
import Giblet.CodeHook.Overrides
import Giblet.CodeHook.CopiedBlock
import Giblet.CodeHook.MemoryBlock
import Giblet.CodeHook.Transparent
import Giblet.Lib.Intake
import Giblet.YahooWeb.Polling

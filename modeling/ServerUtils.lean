import ServerUtils.Parser.RequestRoundTrip
import ServerUtils.Parser.RequestSoundness
import ServerUtils.Parser.ContentLength
import ServerUtils.Parser.RequestStability
import ServerUtils.Parser.RequestErrors
import ServerUtils.Parser.HeaderWhitespace
import ServerUtils.Bus.Shutdown
import ServerUtils.Bus.Lifetime
import ServerUtils.Bus.Unsubscribe
import ServerUtils.Bus.Recipients
import ServerUtils.Bus.Iteration
import ServerUtils.Server.FairService
import ServerUtils.Server.Isolation
import ServerUtils.Server.Records
import ServerUtils.Loader.PasswordRoundTrip
import ServerUtils.Parser.ASTString
import ServerUtils.Server.Observable
import ServerUtils.Server.DescriptorRange
import ServerUtils.Server.FailedConnections
import ServerUtils.Server.Listen
import ServerUtils.Loader.OnlyCopy
import ServerUtils.Loader.FaultSchedule
import ServerUtils.Loader.SymbolListing
import ServerUtils.Loader.LibraryName
import ServerUtils.Parser.Canonical
import ServerUtils.Bus.EndToEnd
import ServerUtils.Bus.Progress
import ServerUtils.Server.Sessions
import ServerUtils.Server.Lifecycle
import ServerUtils.Snap7.Telegrams
import ServerUtils.Snap7.Areas
import ServerUtils.Snap7.EventBlocks
import ServerUtils.Snap7.RemoteMemory

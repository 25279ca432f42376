import Switchboard.Bot.Console
import Switchboard.Dispatch.Stock
import Switchboard.Logging.Trial
import Switchboard.Main
import Switchboard.Proofs.Config.Defaults
import Switchboard.Proofs.Dispatch.Effects
import Switchboard.Proofs.Tree.Barrier
import Switchboard.Proofs.Tree.Overtaking
import Switchboard.Proofs.Tree.Requests
import Switchboard.Proofs.Usage.Accounting
import Switchboard.Proofs.Bot.Replies
import Switchboard.Proofs.Bot.Accounting
import Switchboard.Proofs.Tree.BareHandlers
import Switchboard.Proofs.Tree.Naming
import Switchboard.Proofs.Config.Findings
import Switchboard.Proofs.Token.Agreement
import Switchboard.Proofs.Dispatch.Typing
import Switchboard.Proofs.Tree.Trailing
import Switchboard.Proofs.Argument.Canonical
import Switchboard.Proofs.Tree.Enumeration
import Switchboard.Proofs.Tree.Listings
import Switchboard.Proofs.Bot.Startup
import Switchboard.Proofs.Dispatch.Delimiters
import Switchboard.Proofs.Dispatch.Rejection
import Switchboard.Proofs.Logging.Levels

import Switchboard.Dispatch.Dispatcher

/-!
# Stock actions

Actions that need no program behind them: fixed replies, and replies that show what a handler
receives. They are enough to try out a tree.
-/

namespace Switchboard

/-- The actions that come with the library. -/
inductive StockAction where
  /-- A fixed reply. -/
  | fixed (reply : Reply)
  /-- The text of each argument. -/
  | arguments
  /-- The texts of arguments that are read by kind and position. -/
  | read (reads : List (ParameterKind × Nat))
  /-- What the handler sees of the message and of the tree. -/
  | context
  /-- The help page of the node. -/
  | help (recursive : Bool)
  deriving DecidableEq, Repr

namespace CommandContext

variable {Action : Type}

/-- The lines of the help page of the node whose handler runs. -/
def helpLines (context : CommandContext Action) (recursive : Bool) :
    Except TreeError (List String) :=
  (context.tree.listHandlers context.node recursive).map fun listings =>
    listings.map fun listing => listing.usage ++ " - " ++ listing.description

end CommandContext

namespace StockAction

/-- What a stock action replies. -/
def perform (action : StockAction) (context : CommandContext StockAction)
    (arguments : Arguments) : Reply :=
  match action with
  | .fixed reply => reply
  | .arguments => .texts (arguments.values.map Value.display)
  | .read reads =>
    match reads.mapM fun (kind, index) => arguments.display kind index with
    | .error error => .failure error.message
    | .ok texts => .texts texts
  | .context =>
    .texts [context.event.userId, context.event.channelId, context.event.channelKind.key,
      context.event.content, context.node.text, context.tree.settings.lead]
  | .help recursive =>
    match context.helpLines recursive with
    | .error error => .failure error.message
    | .ok lines => .texts lines

end StockAction

end Switchboard

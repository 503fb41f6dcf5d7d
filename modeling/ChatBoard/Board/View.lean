import ChatBoard.Board.Reading
import ChatBoard.Calendar
import ChatBoard.Page.Render
import ChatBoard.Store.Messages

/-!
# Views

How rows of the store are shown: messages oldest first with their dates, channels with what pages
list of them, and the names that every page for a signed-in account can use.
-/

namespace ChatBoard

/-- A stored message as clients receive it. -/
def AuthoredMessage.posted (m : AuthoredMessage) : PostedMessage :=
  ⟨m.id, m.author, displayDate m.message.createdAt, m.message.content⟩

/-- Messages come newest first from the store and are shown oldest first. -/
def chronological (ms : List AuthoredMessage) : List PostedMessage :=
  ms.reverse.map AuthoredMessage.posted

/-- A channel as pages list it. -/
def channelInfo (e : Entry Channel) : ChannelInfo := ⟨e.id, e.row.name, e.row.description⟩

namespace Page

/-- The channels as pages list them. -/
def Value.ofChannels (cs : List (Entry Channel)) : Value :=
  .list (cs.map fun e => .ofChannel (channelInfo e))

/-- What pages are told of the account that looks at them. -/
def Value.ofViewer (user : Entry User) : Value := .ofUser user.id (Store.publicUser user.row)

/-- The names on a page for a signed-in account; the channel is the one it shows, or 0. -/
def viewerScope (channel : Int) (channels : List (Entry Channel)) (user : Entry User)
    (more : Scope) : Scope :=
  [("channel_id", .int channel), ("channels", .ofChannels channels), ("user", .ofViewer user)]
    ++ more

/-- The names on a form for visitors. -/
def visitorScope : Scope := [("channel_id", .int 0), ("channels", .list []), ("user", .none)]

/-- The names on the welcome page. -/
def welcomeScope : Scope := [("channel_id", .none)]

end Page

/-- The answer that shows a page. -/
def Response.ofPage (name : String) (scope : Page.Scope) : Response :=
  match Page.render name scope with
  | .ok html => .page html
  | .error _ => .ofFailure .internal

end ChatBoard

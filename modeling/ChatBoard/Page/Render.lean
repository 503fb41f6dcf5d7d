import ChatBoard.Page.Channels
import ChatBoard.Page.Entrance
import ChatBoard.Page.Profile
import ChatBoard.Wire

/-!
# Rendering

The pages by name, and the values that the board gives to them.
-/

namespace ChatBoard.Page

/-- The frame's own name. -/
def frameName : String := "layout.html"

/-- The contents of the pages by name. -/
def contents : List (String × Template) :=
  [("index.html", welcomeContent), ("register.html", registerContent),
    ("login.html", loginContent), ("channel.html", channelContent),
    ("history.html", historyContent), ("profile.html", profileContent),
    ("add_channel.html", addChannelContent)]

/-- The template of a page. The frame by itself has no content. -/
def template? (name : String) : Option Template :=
  if name = frameName then some (frame frameName .done)
  else (contents.lookup name).map (frame name)

/-- The pieces of a page. -/
def pieces (name : String) (scope : Scope) : Except RenderFault (List Piece) :=
  match template? name with
  | none => .error (.unknownPage name)
  | some t => t.fill frameName scope

/-- The markup of a page. -/
def render (name : String) (scope : Scope) : Except RenderFault String :=
  (pieces name scope).map Piece.join

/-- What pages are told of an account. -/
def Value.ofUser (id : Int) (u : PublicUser) : Value :=
  .map [("id", .int id), ("name", .text u.name), ("display_name", .text u.displayName),
    ("avatar_icon", .text u.avatar)]

/-- What pages are told of an account that is shown to others. -/
def Value.ofPublicUser (u : PublicUser) : Value :=
  .map [("name", .text u.name), ("display_name", .text u.displayName),
    ("avatar_icon", .text u.avatar)]

/-- What pages are told of a channel. -/
def Value.ofChannel (c : ChannelInfo) : Value :=
  .map [("id", .int c.id), ("name", .text c.name), ("description", .text c.description)]

/-- What pages are told of a message. -/
def Value.ofMessage (m : PostedMessage) : Value :=
  .map [("id", .int m.id), ("user", .ofPublicUser m.user), ("date", .text m.date),
    ("content", .text m.content)]

end ChatBoard.Page

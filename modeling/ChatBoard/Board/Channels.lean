import ChatBoard.Board.Setting
import ChatBoard.Board.View

/-!
# Channels

The page of a channel, and adding one.
-/

namespace ChatBoard.Channels

/-- The page of a channel, which need not exist. -/
def shown (user : Entry User) (raw : Octets) (s : Store) : Response :=
  match Request.pathNumber "channel_id" raw with
  | .error refusal => .ofRefusal refusal
  | .ok id =>
    match s.listChannels (some id) with
    | .error _ => .ofFailure .internal
    | .ok (channels, description) =>
      .ofPage "channel.html"
        (Page.viewerScope id channels user [("description", .text description)])

/-- The page with the form for a new channel. -/
def addForm (user : Entry User) (s : Store) : Response :=
  match s.listChannels none with
  | .error _ => .ofFailure .internal
  | .ok (channels, _) => .ofPage "add_channel.html" (Page.viewerScope 0 channels user [])

/-- Adds a channel, whose name and description must not be empty, and goes to its page. -/
def add (e : Setting) (r : Request) (s : Store) : Response × Store :=
  match r.formTexts "name" "description" with
  | .error refusal => (.ofRefusal refusal, s)
  | .ok (name, description) =>
    if name.isEmpty || description.isEmpty then (.ofFailure .badRequest, s)
    else
      match s.createChannel e.clock name description with
      | .error _ => (.ofFailure .internal, s)
      | .ok (id, s') => (.redirect ("/channel/" ++ Numeral.ofInt id), s')

end ChatBoard.Channels

import ChatBoard.Board.Setting
import ChatBoard.Board.View
import ChatBoard.Store.Unread

/-!
# Messages

Posting a message, polling a channel, the numbers of unread messages, and the history of a channel
page by page. A poll takes two steps at the store: it reads the newest messages, and then it sets
the account's mark to the newest of them.
-/

namespace ChatBoard.Messages

/-- The number of a channel in a form: a positive number of the signed 64-bit range. -/
def channelNumber? (s : String) : Option Int :=
  match Numeral.readInt64 s with
  | .ok id => if 0 < id then some id else none
  | .error _ => none

/-- Posts a message. An empty one is forbidden, and so is one to no channel. -/
def post (e : Setting) (user : Entry User) (r : Request) (s : Store) : Response × Store :=
  match r.formTexts "message" "channel_id" with
  | .error refusal => (.ofRefusal refusal, s)
  | .ok (content, channel) =>
    if content.isEmpty then (.ofFailure .forbidden, s)
    else
      match channelNumber? channel with
      | none => (.ofFailure .forbidden, s)
      | some id =>
        match s.insertMessage e.clock id user.id content with
        | .error _ => (.ofFailure .internal, s)
        | .ok (_, s') => (.noContent, s')

/-- The most messages in the answer to a poll. -/
def pollLimit : Int := 100

/-- The newest id among messages, or 0. -/
def newestId (ms : List AuthoredMessage) : Int := (ms.map (·.id)).max?.getD 0

/-- The answer to a poll. -/
def pollAnswer (ms : List AuthoredMessage) : Response :=
  .json (Json.writeList ((chronological ms).map PostedMessage.write))

/-- The newest messages of a channel after a given one; the account's mark moves to the newest of
them, or to 0 when there are none. -/
def poll (e : Setting) (user : Entry User) (r : Request) (s : Store) : Response × Store :=
  match r.queryNumbers "channel_id" "last_message_id" with
  | .error refusal => (.ofRefusal refusal, s)
  | .ok (channel, after) =>
    match s.messagesAfter channel after pollLimit with
    | .error _ => (.ofFailure .internal, s)
    | .ok ms =>
      -- A message that arrives now stays above the mark.
      match s.markRead e.clock user.id channel (newestId ms) with
      | .error _ => (.ofFailure .internal, s)
      | .ok s' => (pollAnswer ms, s')

/-- For every channel the number of messages that the account has not read. -/
def unread (user : Entry User) (s : Store) : Response :=
  match s.unreadCounts user.id with
  | .error _ => .ofFailure .internal
  | .ok counts => .json (Json.writeList (counts.map UnreadCount.write))

/-- The number of messages on a page of the history. -/
def pageSize : Int := 20

/-- The number of pages for a number of messages; an empty channel has one, which is empty. -/
def maxPage (count : Int) : Int := max ((count + pageSize - 1) / pageSize) 1

/-- The number of a page: digits only, and at least 1. None at all asks for the first page. -/
def pageNumber? : Option String → Option Int
  | none => some 1
  | some s =>
    if s.isEmpty then some 1
    else if s.toList.all fun c => (Numeral.digit? c).isSome then
      match Numeral.readInt64 s with
      | .ok page => if 1 ≤ page then some page else none
      | .error _ => none
    else none

/-- The names on a page of the history. -/
def historyScope (user : Entry User) (channels : List (Entry Channel)) (channel page last : Int)
    (ms : List AuthoredMessage) : Page.Scope :=
  Page.viewerScope channel channels user
    [("messages", .list ((chronological ms).map .ofMessage)), ("max_page", .int last),
      ("page", .int page)]

/-- Shows a page of a channel's history, once the channel and the page are known. -/
def historyPage (user : Entry User) (channel page : Int) (s : Store) : Response :=
  match s.countMessages channel with
  | .error _ => .ofFailure .internal
  | .ok count =>
    if maxPage count < page then .ofFailure .badRequest
    else
      match s.messagesPage channel pageSize ((page - 1) * pageSize), s.listChannels none with
      | .ok ms, .ok (channels, _) =>
        .ofPage "history.html" (historyScope user channels channel page (maxPage count) ms)
      | _, _ => .ofFailure .internal

/-- Shows a page of a channel's history. -/
def history (user : Entry User) (raw : Octets) (r : Request) (s : Store) : Response :=
  match Request.pathNumber "channel_id" raw with
  | .error refusal => .ofRefusal refusal
  | .ok channel =>
    match r.queryText "page" with
    | .error refusal => .ofRefusal refusal
    | .ok raw =>
      if channel ≤ 0 then .ofFailure .badRequest
      else
        match pageNumber? raw with
        | none => .ofFailure .badRequest
        | some page => historyPage user channel page s

end ChatBoard.Messages

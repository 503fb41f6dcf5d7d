import ChatBoard.Page.Frame

/-!
# Pages of channels

What the page of a channel, the history of a channel and the page that adds a channel hold inside
the frame. The history shows one page of messages, with links to all pages and to its neighbours.
-/

namespace ChatBoard.Page

/-- The page of a channel: its description and the place where messages appear. -/
def channelContent : Template :=
  .text (lines ["", r#"<p class="channel-description">"#]) <|
  .print 3 (.name "description") <|
  .text (lines ["</p>", r#"<p><a href="/history/"#]) <|
  .print 4 (.name "channel_id") <|
  .text (lines [
    r#"">過去ログ</a></p>"#,
    r#"<div id="timeline"></div>"#,
    r#"<div id="chatbox" class="fixed-bottom">"#,
    r#"  <textarea id="chatbox-textarea" class="form-control" rows="2" placeholder="Enter で送信、Shift+Enter で改行"></textarea>"#,
    "</div>",
    r#"<script src="/js/chat.js"></script>"#,
    ""]) <|
  .done

/-- A page of a channel's history with links to the others. -/
def historyContent : Template :=
  .text (lines ["", r#"<div id="history">"#, "  "]) <|
  .each 4 "message" (.name "messages")
    (.text (lines [
       "",
       r#"  <div class="media message">"#,
       r#"    <img class="avatar d-flex align-self-start mr-3" alt="no avatar" src="/icons/"#]) <|
     .print 6 (.field (.field (.name "message") "user") "avatar_icon") <|
     .text (lines [
       r#"">"#,
       r#"    <div class="media-body">"#,
       r#"      <h5 class="mt-0"><a href="/profile/"#]) <|
     .print 8 (.field (.field (.name "message") "user") "name") <|
     .text r#"">"# <|
     .print 8 (.field (.field (.name "message") "user") "display_name") <|
     .text "@" <|
     .print 8 (.field (.field (.name "message") "user") "name") <|
     .text (lines ["</a></h5>", r#"      <p class="content">"#]) <|
     .print 9 (.field (.name "message") "content") <|
     .text (lines ["</p>", r#"      <p class="message-date">"#]) <|
     .print 10 (.field (.name "message") "date") <|
     .text (lines ["</p>", "    </div>", "  </div>", "  "]) <|
     .done) <|
  .text (lines ["", "</div>", "<nav>", r#"  <ul class="pagination">"#, "    "]) <|
  .cond 17 (.greater (.name "page") (.int 1))
    (.text (lines ["", r#"    <li class="page-item"><a class="page-link" href="/history/"#]) <|
     .print 18 (.name "channel_id") <|
     .text "?page=" <|
     .print 18 (.sub (.name "page") (.int 1)) <|
     .text (lines [r#"">&laquo;</a></li>"#, "    "]) <|
     .done)
    .done <|
  .text (lines ["", "    "]) <|
  .each 20 "p" (.range (.int 1) (.add (.name "max_page") (.int 1)))
    (.text (lines ["", r#"    <li class="page-item"#]) <|
     .cond 21 (.equal (.name "p") (.name "page")) (.text " active" .done) .done <|
     .text r#""><a class="page-link" href="/history/"# <|
     .print 21 (.name "channel_id") <|
     .text "?page=" <|
     .print 21 (.name "p") <|
     .text r#"">"# <|
     .print 21 (.name "p") <|
     .text (lines ["</a></li>", "    "]) <|
     .done) <|
  .text (lines ["", "    "]) <|
  .cond 23 (.less (.name "page") (.name "max_page"))
    (.text (lines ["", r#"    <li class="page-item"><a class="page-link" href="/history/"#]) <|
     .print 24 (.name "channel_id") <|
     .text "?page=" <|
     .print 24 (.add (.name "page") (.int 1)) <|
     .text (lines [r#"">&raquo;</a></li>"#, "    "]) <|
     .done)
    .done <|
  .text (lines ["", "  </ul>", "</nav>", ""]) <|
  .done

/-- The form that adds a channel. -/
def addChannelContent : Template :=
  .text (lines [
    "",
    "<h2>チャンネル追加</h2>",
    r#"<form action="/add_channel" method="post">"#,
    r#"  <div class="form-group">"#,
    r#"    <label for="name">チャンネル名</label>"#,
    r#"    <input type="text" class="form-control" id="name" name="name" required>"#,
    "  </div>",
    r#"  <div class="form-group">"#,
    r#"    <label for="description">説明</label>"#,
    r#"    <textarea class="form-control" id="description" name="description" rows="3" required></textarea>"#,
    "  </div>",
    r#"  <button type="submit" class="btn btn-primary">作成</button>"#,
    "</form>",
    ""]) <|
  .done

end ChatBoard.Page

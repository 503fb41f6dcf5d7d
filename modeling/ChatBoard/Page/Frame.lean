import ChatBoard.Page.Template

/-!
# The frame of every page

The head, the bar with the links for signed-in or anonymous visitors, the list of channels with the
present one marked, and in the middle the content of the page.
-/

namespace ChatBoard.Page

/-- Lines of text, with line feeds between them. -/
def lines (ls : List String) : String := String.intercalate "\n" ls

/-- The frame around a content that stands in a file of its own. -/
def frame (file : String) (content : Template) : Template :=
  .text (lines [
    "<!DOCTYPE html>",
    r#"<html lang="ja">"#,
    "<head>",
    r#"  <meta charset="utf-8">"#,
    "  <title>isubata</title>",
    r#"  <link rel="stylesheet" href="/css/bootstrap.min.css">"#,
    r#"  <link rel="stylesheet" href="/css/main.css">"#,
    r#"  <script src="/js/jquery.min.js"></script>"#,
    "</head>",
    "<body>",
    r#"<nav class="navbar navbar-expand-md navbar-dark fixed-top bg-dark">"#,
    r#"  <a class="navbar-brand" href="/">isubata</a>"#,
    r#"  <ul class="navbar-nav ml-auto">"#,
    "    "]) <|
  .cond 14 (.name "user")
    (.text (lines [
       "",
       r#"    <li class="nav-item"><a class="nav-link" href="/add_channel">チャンネル追加</a></li>"#,
       r#"    <li class="nav-item"><a class="nav-link" href="/profile/"#]) <|
     .print 16 (.field (.name "user") "name") <|
     .text r#"">"# <|
     .print 16 (.field (.name "user") "display_name") <|
     .text (lines [
       "</a></li>",
       r#"    <li class="nav-item"><a class="nav-link" href="/logout">ログアウト</a></li>"#,
       "    "]) <|
     .done)
    (.text (lines [
       "",
       r#"    <li class="nav-item"><a class="nav-link" href="/register">新規登録</a></li>"#,
       r#"    <li class="nav-item"><a class="nav-link" href="/login">ログイン</a></li>"#,
       "    "]) <|
     .done) <|
  .text (lines [
    "",
    "  </ul>",
    "</nav>",
    r#"<div class="container-fluid">"#,
    r#"  <div class="row">"#,
    r#"    <nav class="col-sm-3 col-md-2 d-none d-sm-block bg-light sidebar">"#,
    r#"      <ul class="nav nav-pills flex-column">"#,
    "        "]) <|
  .each 28 "channel" (.name "channels")
    (.text (lines [
       "",
       r#"        <li class="nav-item">"#,
       r#"          <a class="nav-link justify-content-between"#]) <|
     .cond 30 (.equal (.field (.name "channel") "id") (.name "channel_id"))
       (.text " active" .done) .done <|
     .text (lines [r#"""#, r#"             href="/channel/"#]) <|
     .print 31 (.field (.name "channel") "id") <|
     .text (lines [r#"">"#, "            "]) <|
     .print 32 (.field (.name "channel") "name") <|
     .text (lines [
       "",
       r#"            <span class="badge badge-pill badge-primary float-right" id="unread-"#]) <|
     .print 33 (.field (.name "channel") "id") <|
     .text (lines [r#""></span>"#, "          </a>", "        </li>", "        "]) <|
     .done) <|
  .text (lines [
    "",
    "      </ul>",
    "    </nav>",
    r#"    <main class="col-sm-9 offset-sm-3 col-md-10 offset-md-2 pt-3">"#,
    "      "]) <|
  .block file content <|
  .text (lines ["", "    </main>", "  </div>", "</div>", "</body>", "</html>"]) <|
  .done

end ChatBoard.Page

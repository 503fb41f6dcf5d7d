import ChatBoard.Page.Frame

/-!
# Pages for visitors

What the welcome page and the pages for registering and signing in hold inside the frame.
-/

namespace ChatBoard.Page

/-- The welcome page leads to registering and signing in. -/
def welcomeContent : Template :=
  .text (lines [
    "",
    r#"<div class="jumbotron">"#,
    r#"  <h1 class="display-3">isubata</h1>"#,
    r#"  <p class="lead">チャンネルで気軽にチャットしよう。</p>"#,
    "  <p>",
    r#"    <a class="btn btn-primary btn-lg" href="/register" role="button">新規登録</a>"#,
    r#"    <a class="btn btn-secondary btn-lg" href="/login" role="button">ログイン</a>"#,
    "  </p>",
    "</div>",
    ""]) <|
  .done

/-- The form that makes an account. -/
def registerContent : Template :=
  .text (lines [
    "",
    "<h2>新規登録</h2>",
    r#"<form action="/register" method="post">"#,
    r#"  <div class="form-group">"#,
    r#"    <label for="name">ユーザー名</label>"#,
    r#"    <input type="text" class="form-control" id="name" name="name" required>"#,
    "  </div>",
    r#"  <div class="form-group">"#,
    r#"    <label for="password">パスワード</label>"#,
    r#"    <input type="password" class="form-control" id="password" name="password" required>"#,
    "  </div>",
    r#"  <button type="submit" class="btn btn-primary">登録</button>"#,
    "</form>",
    ""]) <|
  .done

/-- The form that starts a session. -/
def loginContent : Template :=
  .text (lines [
    "",
    "<h2>ログイン</h2>",
    r#"<form action="/login" method="post">"#,
    r#"  <div class="form-group">"#,
    r#"    <label for="name">ユーザー名</label>"#,
    r#"    <input type="text" class="form-control" id="name" name="name" required>"#,
    "  </div>",
    r#"  <div class="form-group">"#,
    r#"    <label for="password">パスワード</label>"#,
    r#"    <input type="password" class="form-control" id="password" name="password" required>"#,
    "  </div>",
    r#"  <button type="submit" class="btn btn-primary">ログイン</button>"#,
    "</form>",
    ""]) <|
  .done

end ChatBoard.Page

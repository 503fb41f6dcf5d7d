import ChatBoard.Page.Frame

/-!
# The profile page

What the page of an account holds inside the frame. Only the account itself gets the form.
-/

namespace ChatBoard.Page

/-- The profile of an account, and the form that changes it for its owner. -/
def profileContent : Template :=
  .text (lines [
    "",
    r#"<div class="profile">"#,
    r#"  <img class="avatar" alt="no avatar" src="/icons/"#]) <|
  .print 4 (.field (.name "other") "avatar_icon") <|
  .text (lines [r#"">"#, "  <dl>", r#"    <dt>ユーザー名</dt><dd id="user-name">"#]) <|
  .print 6 (.field (.name "other") "name") <|
  .text (lines ["</dd>", r#"    <dt>表示名</dt><dd id="display-name">"#]) <|
  .print 7 (.field (.name "other") "display_name") <|
  .text (lines ["</dd>", "  </dl>", "</div>", ""]) <|
  .cond 10 (.name "self_profile")
    (.text (lines [
       "",
       r#"<form action="/profile" method="post" enctype="multipart/form-data">"#,
       r#"  <div class="form-group">"#,
       r#"    <label for="display_name">表示名</label>"#,
       r#"    <input type="text" class="form-control" id="display_name" name="display_name" value=""#]) <|
     .print 14 (.field (.name "other") "display_name") <|
     .text (lines [
       r#"">"#,
       "  </div>",
       r#"  <div class="form-group">"#,
       r#"    <label for="avatar_icon">アイコン</label>"#,
       r#"    <input type="file" class="form-control-file" id="avatar_icon" name="avatar_icon" accept=".jpg,.jpeg,.png,.gif">"#,
       "  </div>",
       r#"  <button type="submit" class="btn btn-primary">更新</button>"#,
       "</form>",
       ""]) <|
     .done)
    .done <|
  .text (lines ["", ""]) <|
  .done

end ChatBoard.Page

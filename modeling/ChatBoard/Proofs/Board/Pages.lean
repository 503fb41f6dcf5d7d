import ChatBoard.Proofs.Board.Effect
import ChatBoard.Proofs.Messages.Pages
import ChatBoard.Proofs.Page.Markup

/-!
# What the board answers as a page

Whatever is requested, an answer that calls itself HTML is a page that the board has made from
values of its own choice, those of `Page.Handed`, and it is sent as it was made (`html_of_serve`).
So what is shown of all such pages holds of all that clients ever take for markup
(`texts_stay_texts`): of each text that reaches a page only its escaped form is there.
-/

namespace ChatBoard

namespace Response

/-- An answer calls itself HTML. -/
def IsHtml (answer : Response) : Prop := answer.contentType = some "text/html; charset=utf-8"

/-- An answer is a page made from what pages are given, or it does not call itself HTML. -/
def MadeOfPage (answer : Response) : Prop :=
  answer.IsHtml → ∃ name scope html, Page.Handed name scope ∧ Page.render name scope = .ok html
    ∧ answer = .page html

/-! ## Answers that are no pages -/

/-- An answer that is only a status is no page. -/
theorem not_isHtml_bare (status : Nat) : ¬ (bare status).IsHtml := nofun

/-- An answer of another media type is no page. -/
theorem not_isHtml_withBody {status : Nat} {contentType : String} {body : Octets}
    (h : contentType ≠ "text/html; charset=utf-8") :
    ¬ (withBody status contentType body).IsHtml :=
  fun hhtml => h (Option.some.inj hhtml)

/-- A refusal says in plain text why. -/
theorem not_isHtml_refusal (refusal : Refusal) : ¬ (ofRefusal refusal).IsHtml :=
  not_isHtml_withBody (by decide)

/-- An answer that leads elsewhere is no page. -/
theorem not_isHtml_redirect (location : String) : ¬ (redirect location).IsHtml := by
  unfold redirect
  split
  · exact not_isHtml_bare 303
  · exact not_isHtml_refusal .headerValue

/-- Data for scripts is no page. -/
theorem not_isHtml_json (text : Octets) : ¬ (json text).IsHtml := not_isHtml_withBody (by decide)

/-- What does not call itself HTML need not be a page. -/
theorem madeOfPage_of_not {answer : Response} (h : ¬ answer.IsHtml) : answer.MadeOfPage :=
  fun hhtml => absurd hhtml h

/-- A failure says nothing. -/
theorem madeOfPage_failure (f : Failure) : (ofFailure f).MadeOfPage :=
  madeOfPage_of_not (not_isHtml_bare f.status)

/-- A refusal need not be a page. -/
theorem madeOfPage_refusal (refusal : Refusal) : (ofRefusal refusal).MadeOfPage :=
  madeOfPage_of_not (not_isHtml_refusal refusal)

/-- An answer that leads elsewhere need not be a page. -/
theorem madeOfPage_redirect (location : String) : (redirect location).MadeOfPage :=
  madeOfPage_of_not (not_isHtml_redirect location)

/-- What is shown as a page is made of what the page is given. -/
theorem madeOfPage_ofPage {name : String} {scope : Page.Scope} (h : Page.Handed name scope) :
    (ofPage name scope).MadeOfPage := by
  cases hrender : Page.render name scope with
  | ok html => exact fun _ => ⟨name, scope, html, h, hrender, ofPage_of_render hrender⟩
  | error fault =>
    unfold ofPage
    rw [hrender]
    exact madeOfPage_failure .internal

end Response

open Response

section

variable {e : Setting} {r : Request} {s : Store}

/-! ## What is open to all -/

/-- Starting a session leads elsewhere. -/
theorem not_isHtml_signIn (e : Setting) (user : Int) : ¬ (Entrance.signIn e user).IsHtml :=
  not_isHtml_redirect "/"

/-- Credentials that are refused are answered without a page. -/
theorem not_isHtml_credentials {answer : Response} (h : Entrance.credentials r = .error answer) :
    ¬ answer.IsHtml := by
  unfold Entrance.credentials at h
  split at h
  next refusal _ =>
    cases h
    exact not_isHtml_refusal refusal
  · split at h
    · cases h
      exact not_isHtml_bare 400
    · cases h

/-- The reset shows nothing. -/
theorem not_isHtml_reset (s : Store) : ¬ (Entrance.reset s).1.IsHtml := by
  unfold Entrance.reset
  split
  · exact not_isHtml_bare 204
  · exact not_isHtml_bare 500

/-- Making an account shows nothing. -/
theorem not_isHtml_register (e : Setting) (r : Request) (s : Store) :
    ¬ (Entrance.register e r s).1.IsHtml := by
  unfold Entrance.register
  split
  next answer hcredentials => exact not_isHtml_credentials hcredentials
  · split
    · exact not_isHtml_bare 500
    · exact not_isHtml_bare 409
    next id _ _ => exact not_isHtml_signIn e id

/-- Signing in shows nothing. -/
theorem not_isHtml_login (e : Setting) (r : Request) (s : Store) :
    ¬ (Entrance.login e r s).IsHtml := by
  unfold Entrance.login
  split
  next answer hcredentials => exact not_isHtml_credentials hcredentials
  · split
    · exact not_isHtml_bare 500
    · exact not_isHtml_bare 403
    next user _ =>
      split
      · exact not_isHtml_signIn e user.id
      · exact not_isHtml_bare 403

/-- A picture goes out as a picture, whatever its octets are. -/
theorem not_isHtml_icon (raw : Octets) (s : Store) : ¬ (Entrance.icon raw s).IsHtml := by
  have himage : ∀ name mediaType, Avatar.mediaType? name = some mediaType →
      mediaType ≠ "text/html; charset=utf-8" := by
    intro name mediaType h
    unfold Avatar.mediaType? at h
    split at h
    · exact Option.some.inj h ▸ by decide
    · split at h
      · exact Option.some.inj h ▸ by decide
      · split at h
        · exact Option.some.inj h ▸ by decide
        · cases h
  unfold Entrance.icon
  split
  next refusal _ => exact not_isHtml_refusal refusal
  next name _ =>
    split
    · exact not_isHtml_bare 404
    next mediaType htype =>
      split
      · exact not_isHtml_bare 500
      · exact not_isHtml_bare 404
      · exact not_isHtml_withBody (himage name mediaType htype)

/-- What is open to all are pages for visitors, or no pages. -/
theorem madeOfPage_public (e : Setting) (r : Request) (s : Store) (route : PublicRoute) :
    (route.serve e r s).1.MadeOfPage := by
  cases route with
  | reset => exact madeOfPage_of_not (not_isHtml_reset s)
  | welcome =>
    dsimp only [PublicRoute.serve, keeping, Entrance.welcome]
    split
    · exact madeOfPage_redirect "/channel/1"
    · exact madeOfPage_ofPage .welcome
  | register =>
    dsimp only [PublicRoute.serve]
    split
    · exact madeOfPage_of_not (not_isHtml_register e r s)
    · exact madeOfPage_ofPage .register
  | login =>
    dsimp only [PublicRoute.serve, keeping]
    split
    · exact madeOfPage_of_not (not_isHtml_login e r s)
    · exact madeOfPage_ofPage .login
  | logout => exact madeOfPage_of_not (not_isHtml_redirect "/")
  | icon name => exact madeOfPage_of_not (not_isHtml_icon name s)

/-! ## Pages for accounts -/

/-- The page of a channel is made of what it is given. -/
theorem madeOfPage_channel (user : Entry User) (raw : Octets) (s : Store) :
    (Channels.shown user raw s).MadeOfPage := by
  unfold Channels.shown
  split
  next refusal _ => exact madeOfPage_refusal refusal
  next id _ =>
    split
    · exact madeOfPage_failure .internal
    next channels description _ => exact madeOfPage_ofPage (.channel id channels user description)

/-- The form for a new channel is made of what it is given. -/
theorem madeOfPage_addForm (user : Entry User) (s : Store) :
    (Channels.addForm user s).MadeOfPage := by
  unfold Channels.addForm
  split
  · exact madeOfPage_failure .internal
  next channels _ _ => exact madeOfPage_ofPage (.addChannel channels user)

/-- Adding a channel shows nothing. -/
theorem madeOfPage_addChannel (e : Setting) (r : Request) (s : Store) :
    (Channels.add e r s).1.MadeOfPage := by
  unfold Channels.add
  split
  next refusal _ => exact madeOfPage_refusal refusal
  · split
    · exact madeOfPage_failure .badRequest
    · split
      · exact madeOfPage_failure .internal
      · exact madeOfPage_redirect _

/-- A page of a history is made of what it is given. -/
theorem madeOfPage_history (user : Entry User) (raw : Octets) (r : Request) (s : Store) :
    (Messages.history user raw r s).MadeOfPage := by
  unfold Messages.history
  split
  next refusal _ => exact madeOfPage_refusal refusal
  next channel _ =>
    split
    next refusal _ => exact madeOfPage_refusal refusal
    · split
      · exact madeOfPage_failure .badRequest
      · split
        · exact madeOfPage_failure .badRequest
        next page _ =>
          unfold Messages.historyPage
          split
          · exact madeOfPage_failure .internal
          next count _ =>
            split
            · exact madeOfPage_failure .badRequest
            · split
              next ms channels _ _ _ =>
                have hpos : 1 ≤ Messages.maxPage count := Int.le_max_right _ _
                exact madeOfPage_ofPage (.history user channels channel page hpos ms)
              · exact madeOfPage_failure .internal

/-- The page of an account is made of what it is given. -/
theorem madeOfPage_profile (user : Entry User) (raw : Octets) (s : Store) :
    (Profile.shown user raw s).MadeOfPage := by
  unfold Profile.shown
  split
  next refusal _ => exact madeOfPage_refusal refusal
  · split
    next channels _ other _ _ =>
      exact madeOfPage_ofPage
        (.profile channels user (Store.publicUser other.row) (user.id == other.id))
    · exact madeOfPage_failure .notFound
    · exact madeOfPage_failure .internal

/-- Changing a profile shows nothing. -/
theorem madeOfPage_update (user : Entry User) (r : Request) (s : Store) :
    (Profile.update user r s).1.MadeOfPage := by
  unfold Profile.update
  split
  · exact madeOfPage_refusal .noBoundary
  · split
    · exact madeOfPage_failure .badRequest
    · split
      · exact madeOfPage_failure .badRequest
      · split
        · exact madeOfPage_redirect "/"
        · exact madeOfPage_failure .internal

/-- What an account asks of a page is made of what the page is given. -/
theorem madeOfPage_page (e : Setting) (user : Entry User) (r : Request) (s : Store)
    (route : PageRoute) : (route.serve e user r s).1.MadeOfPage := by
  cases route with
  | channel id => exact madeOfPage_channel user id s
  | history id => exact madeOfPage_history user id r s
  | ownProfile =>
    dsimp only [PageRoute.serve]
    split
    · exact madeOfPage_update user r s
    · exact madeOfPage_redirect _
  | profile name => exact madeOfPage_profile user name s
  | addChannel =>
    dsimp only [PageRoute.serve]
    split
    · exact madeOfPage_addChannel e r s
    · exact madeOfPage_addForm user s

/-! ## What scripts ask for -/

/-- Posting a message shows nothing. -/
theorem not_isHtml_post (e : Setting) (user : Entry User) (r : Request) (s : Store) :
    ¬ (Messages.post e user r s).1.IsHtml := by
  unfold Messages.post
  split
  next refusal _ => exact not_isHtml_refusal refusal
  · split
    · exact not_isHtml_bare 403
    · split
      · exact not_isHtml_bare 403
      · split
        · exact not_isHtml_bare 500
        · exact not_isHtml_bare 204

/-- A poll is answered with data. -/
theorem not_isHtml_poll (e : Setting) (user : Entry User) (r : Request) (s : Store) :
    ¬ (Messages.poll e user r s).1.IsHtml := by
  unfold Messages.poll
  split
  next refusal _ => exact not_isHtml_refusal refusal
  · split
    · exact not_isHtml_bare 500
    · split
      · exact not_isHtml_bare 500
      · exact not_isHtml_json _

/-- The numbers of unread messages are data. -/
theorem not_isHtml_unread (user : Entry User) (s : Store) :
    ¬ (Messages.unread user s).IsHtml := by
  unfold Messages.unread
  split
  · exact not_isHtml_bare 500
  · exact not_isHtml_json _

/-- What an account's script asks for is no page. -/
theorem not_isHtml_api (e : Setting) (user : Entry User) (r : Request) (s : Store)
    (route : ApiRoute) : ¬ (route.serve e user r s).1.IsHtml := by
  cases route with
  | messages =>
    dsimp only [ApiRoute.serve]
    split
    · exact not_isHtml_post e user r s
    · exact not_isHtml_poll e user r s
  | unread => exact not_isHtml_unread user s

/-! ## All requests -/

/-- What holds of all that a gate answers and of all that is behind it holds at the gate. -/
theorem gated_of_forall {P : Response → Prop} {away : Visitor → Response}
    {act : Entry User → Response × Store} (hfailed : P (.ofFailure .internal))
    (haway : ∀ visitor, P (away visitor)) (hact : ∀ user, P (act user).1) :
    P (Route.gated e r s away act).1 := by
  unfold Route.gated
  split
  · exact hfailed
  next user _ => exact hact user
  next visitor _ _ => exact haway visitor

/-- Who is turned away from a page is shown none. -/
theorem not_isHtml_turnedAway (cookies : List Cookie) (visitor : Visitor) :
    ¬ (turnedAway cookies visitor).IsHtml := by
  unfold turnedAway
  split <;> exact not_isHtml_redirect "/login"

/-- A request that its route answers is answered by a page that is made of what it is given, or by
none. -/
theorem madeOfPage_act (e : Setting) (r : Request) (s : Store) (route : Route) :
    (route.act e r s).1.MadeOfPage := by
  cases route with
  | free route => exact madeOfPage_public e r s route
  | page route =>
    exact gated_of_forall (madeOfPage_failure .internal)
      (fun visitor => madeOfPage_of_not (not_isHtml_turnedAway _ visitor))
      fun user => madeOfPage_page e user r s route
  | api route =>
    exact gated_of_forall (madeOfPage_failure .internal) (fun _ => madeOfPage_failure .forbidden)
      fun user => madeOfPage_of_not (not_isHtml_api e user r s route)

/-- A method that a route does not know is answered by no page. -/
theorem not_isHtml_refuse (e : Setting) (r : Request) (s : Store) (route : Route) :
    ¬ (route.refuse e r s).1.IsHtml := by
  -- Naming the methods that the route knows does not change the media type.
  cases route with
  | free route => exact not_isHtml_bare 405
  | page route =>
    exact gated_of_forall (P := fun answer => ¬ answer.IsHtml) (not_isHtml_bare 500)
      (not_isHtml_turnedAway _) fun _ => not_isHtml_bare 405
  | api route =>
    exact gated_of_forall (P := fun answer => ¬ answer.IsHtml) (not_isHtml_bare 500)
      (fun _ => not_isHtml_bare 403) fun _ => not_isHtml_bare 405

/-- Whatever is requested, what goes out as HTML is a page that is made of what it is given. -/
theorem html_of_serve (e : Setting) (r : Request) (s : Store) (hhtml : (serve e r s).1.IsHtml) :
    ∃ name scope html, Page.Handed name scope ∧ Page.render name scope = .ok html
      ∧ serve e r s = r.sent (.page html, (serve e r s).2) := by
  cases hroute : Route.ofPath? r.path with
  | none =>
    unfold serve at hhtml
    rw [hroute] at hhtml
    exact absurd hhtml (not_isHtml_bare 404)
  | some route =>
    cases hanswers : route.answers r.method with
    | false =>
      unfold serve at hhtml
      rw [hroute] at hhtml
      dsimp only at hhtml
      rw [hanswers] at hhtml
      exact absurd hhtml (not_isHtml_refuse e r s route)
    | true =>
      rw [serve_route hroute hanswers] at hhtml ⊢
      -- Leaving the body away changes neither the media type nor the store.
      have hact : (route.act e r s).1.IsHtml := by
        unfold Request.sent at hhtml
        split at hhtml <;> exact hhtml
      obtain ⟨name, scope, html, hhanded, hrender, hpage⟩ := madeOfPage_act e r s route hact
      have hstore : (r.sent (route.act e r s)).2 = (route.act e r s).2 := rfl
      refine ⟨name, scope, html, hhanded, hrender, ?_⟩
      rw [hstore, ← hpage]

end

/-- What becomes of the texts that the board puts on pages. -/
structure TextsStayTexts : Prop where
  /-- A text that is escaped can open and close nothing, and it still tells the text. -/
  harmless : ∀ text, Html.Harmless text
  /-- On each page that the board makes, texts are escaped, and the markup is not theirs. -/
  pages : ∀ name scope, Page.Handed name scope → Page.KeepsMarkup name scope
  /-- Nothing else goes out as HTML. -/
  sent : ∀ e r s, (serve e r s).1.IsHtml →
    ∃ name scope html, Page.Handed name scope ∧ Page.render name scope = .ok html
      ∧ serve e r s = r.sent (.page html, (serve e r s).2)

/-- No text that reaches a page becomes markup. -/
theorem texts_stay_texts : TextsStayTexts where
  harmless := Html.harmless
  pages _ _ h := h.keepsMarkup
  sent := html_of_serve

end ChatBoard

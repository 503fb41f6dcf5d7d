import ChatBoard.Proofs.Codec.Html
import ChatBoard.Proofs.Page.Shape

/-!
# Texts on pages

Every page that the board makes is given values of the shapes that its template is checked for
(`Handed.fits`, `check_pages`), so what is shown of `Template.fill_alike` holds of all pages. A page
is what its template lays out, its own texts unchanged and at their places (`KeepsMarkup.laid`). Of
the texts that it is given two things are shown. If each text is replaced by its escaped form, the
page is the one that the templates give without escaping anything (`KeepsMarkup.escaped`): what a
page shows of a text is its escaped form, and nothing else of the page depends on it. And if each
text is replaced by any other, the page keeps the characters that open and close tags and attribute
values, in their order (`KeepsMarkup.alike`): these are the template's own.
-/

namespace ChatBoard.Page

/-- What pages are given, by the names of the pages. -/
inductive Handed : String → Scope → Prop where
  | welcome : Handed "index.html" welcomeScope
  | register : Handed "register.html" visitorScope
  | login : Handed "login.html" visitorScope
  | channel (id : Int) (channels : List (Entry Channel)) (user : Entry User)
      (description : String) :
      Handed "channel.html"
        (viewerScope id channels user [("description", .text description)])
  | addChannel (channels : List (Entry Channel)) (user : Entry User) :
      Handed "add_channel.html" (viewerScope 0 channels user [])
  | history (user : Entry User) (channels : List (Entry Channel)) (channel page : Int) {last : Int}
      (pos : 1 ≤ last) (ms : List AuthoredMessage) :
      Handed "history.html" (Messages.historyScope user channels channel page last ms)
  | profile (channels : List (Entry Channel)) (user : Entry User) (other : PublicUser)
      (own : Bool) :
      Handed "profile.html" (viewerScope 0 channels user
        [("other", .ofPublicUser other), ("self_profile", .bool own)])

/-- A character that opens or closes a tag or an attribute value. -/
def isMark (c : Char) : Bool := c == '<' || c == '>' || c == '"' || c == '\''

/-- The characters of a text that open and close tags and attribute values, in their order. -/
def marks (html : String) : List Char := html.toList.filter isMark

/-- The text of a piece as it stands. -/
def Piece.plain : Piece → String
  | own s => s
  | given s => s

/-- The page that the templates give without escaping the texts that they are given. -/
def renderPlain (name : String) (scope : Scope) : Except RenderFault String :=
  (pieces name scope).map fun ps => String.join (ps.map Piece.plain)

mutual

/-- A value with each text replaced. -/
def Value.mapTexts (f : String → String) : Value → Value
  | .text s => .text (f s)
  | .list xs => .list (Value.mapTextsAll f xs)
  | .map ms => .map (Value.mapTextsMembers f ms)
  | v => v

/-- Values with each text replaced. -/
def Value.mapTextsAll (f : String → String) : List Value → List Value
  | [] => []
  | x :: xs => x.mapTexts f :: Value.mapTextsAll f xs

/-- Values under names with each text replaced. -/
def Value.mapTextsMembers (f : String → String) : Scope → Scope
  | [] => []
  | (name, v) :: ms => (name, v.mapTexts f) :: Value.mapTextsMembers f ms

end

/-- A scope with each text replaced. -/
def Scope.mapTexts (f : String → String) (scope : Scope) : Scope := Value.mapTextsMembers f scope

/-- Two scopes have the same names, list lengths, numbers and truth values, and any texts. -/
def Scope.Alike (σ τ : Scope) : Prop := AlikeMembers (fun _ _ => True) σ τ

/-- What becomes of the texts that a page is given. -/
structure KeepsMarkup (name : String) (scope : Scope) : Prop where
  /-- The page is laid out by its template, which decides what stands there beside the texts. -/
  laid : ∀ html, render name scope = .ok html →
    ∃ t ps, template? name = some t ∧ Lays scope t ps ∧ html = Piece.join ps
  /-- The page can be made, but for a history of more pages than can be listed. -/
  made : (∀ last, scope.lookup "max_page" = some (.int last) → last ≤ rangeLimit) →
    ∃ html, render name scope = .ok html
  /-- It is what the templates give without escaping when each text is escaped before. -/
  escaped : render name scope = renderPlain name (scope.mapTexts Html.escape)
  /-- With any other texts it has the same characters that open and close tags and attribute values,
  in the same order. -/
  alike : ∀ other, scope.Alike other →
    SameOutcome (fun html html' => marks html = marks html') (render name scope)
      (render name other)

/-! ## The pages and their shapes -/

/-- What pages are told of a channel. -/
def channelShape : Shape := .map [("id", .number), ("name", .text), ("description", .text)]

/-- What pages are told of an account that is shown to others. -/
def personShape : Shape := .map [("name", .text), ("display_name", .text), ("avatar_icon", .text)]

/-- What pages are told of the account that looks at them. -/
def viewerShape : Shape :=
  .map [("id", .number), ("name", .text), ("display_name", .text), ("avatar_icon", .text)]

/-- What pages are told of a message. -/
def messageShape : Shape :=
  .map [("id", .number), ("user", personShape), ("date", .text), ("content", .text)]

/-- The shapes of the names on a page for a signed-in account. -/
def viewerShapes (more : Shapes) : Shapes :=
  [("channel_id", .number), ("channels", .list channelShape), ("user", viewerShape)] ++ more

/-- The shapes of the names on a form for visitors. -/
def visitorShapes : Shapes :=
  [("channel_id", .number), ("channels", .list channelShape), ("user", .absent)]

/-- The shapes of the names on all pages. -/
def pageShapes : List (String × Shapes) :=
  [("index.html", [("channel_id", .absent)]), ("register.html", visitorShapes),
    ("login.html", visitorShapes), ("channel.html", viewerShapes [("description", .text)]),
    ("add_channel.html", viewerShapes []),
    ("history.html",
      viewerShapes [("messages", .list messageShape), ("max_page", .number), ("page", .number)]),
    ("profile.html", viewerShapes [("other", personShape), ("self_profile", .flag)])]

/-- Every page passes the check for the shapes of its names. -/
theorem check_pages : ∀ page ∈ pageShapes, ∃ t, template? page.1 = some t
    ∧ t.check page.2 = true := by
  have hall : ∀ page ∈ pageShapes, (template? page.1).any (·.check page.2) = true := by
    decide +kernel
  exact fun page hpage => (Option.any_eq_true _ _).1 (hall page hpage)

/-- The channels have their shape. -/
theorem fits_channels (channels : List (Entry Channel)) :
    Fits (.list channelShape) (.ofChannels channels) := by
  refine ⟨_, rfl, fun x hx => ?_⟩
  obtain ⟨e, -, rfl⟩ := List.mem_map.1 hx
  exact ⟨_, rfl, _, _, rfl, ⟨_, rfl⟩, _, _, rfl, ⟨_, rfl⟩, _, _, rfl, ⟨_, rfl⟩, rfl⟩

/-- An account that is shown has its shape. -/
theorem fits_person (u : PublicUser) : Fits personShape (.ofPublicUser u) :=
  ⟨_, rfl, _, _, rfl, ⟨_, rfl⟩, _, _, rfl, ⟨_, rfl⟩, _, _, rfl, ⟨_, rfl⟩, rfl⟩

/-- The account that looks at a page has its shape. -/
theorem fits_viewer (user : Entry User) : Fits viewerShape (.ofViewer user) :=
  ⟨_, rfl, _, _, rfl, ⟨_, rfl⟩, _, _, rfl, ⟨_, rfl⟩, _, _, rfl, ⟨_, rfl⟩, _, _, rfl, ⟨_, rfl⟩, rfl⟩

/-- The messages have their shape. -/
theorem fits_messages (ms : List PostedMessage) :
    Fits (.list messageShape) (.list (ms.map .ofMessage)) := by
  refine ⟨_, rfl, fun x hx => ?_⟩
  obtain ⟨m, -, rfl⟩ := List.mem_map.1 hx
  exact ⟨_, rfl, _, _, rfl, ⟨_, rfl⟩, _, _, rfl, fits_person m.user, _, _, rfl, ⟨_, rfl⟩, _, _, rfl,
    ⟨_, rfl⟩, rfl⟩

/-- The names on a page for a signed-in account have their shapes. -/
theorem fits_viewerScope (channel : Int) (channels : List (Entry Channel)) (user : Entry User)
    {shapes : Shapes} {more : Scope} (h : FitMembers shapes more) :
    FitMembers (viewerShapes shapes) (viewerScope channel channels user more) :=
  ⟨_, _, rfl, ⟨_, rfl⟩, _, _, rfl, fits_channels channels, _, _, rfl, fits_viewer user, h⟩

/-- The names on a form for visitors have their shapes. -/
theorem fits_visitorScope : FitMembers visitorShapes visitorScope :=
  ⟨_, _, rfl, ⟨_, rfl⟩, _, _, rfl, fits_channels [], _, _, rfl, .inr rfl, rfl⟩

/-- What a page is given has the shapes that the page is checked for. -/
theorem Handed.fits {name : String} {scope : Scope} (h : Handed name scope) :
    ∃ shapes, (name, shapes) ∈ pageShapes ∧ FitMembers shapes scope := by
  have hindex : ∀ i (hi : i < pageShapes.length), pageShapes[i] ∈ pageShapes :=
    fun _ => List.getElem_mem
  cases h with
  | welcome => exact ⟨_, hindex 0 (by decide), _, _, rfl, .inr rfl, rfl⟩
  | register => exact ⟨_, hindex 1 (by decide), fits_visitorScope⟩
  | login => exact ⟨_, hindex 2 (by decide), fits_visitorScope⟩
  | channel id channels user description =>
    exact ⟨_, hindex 3 (by decide), fits_viewerScope id channels user
      ⟨_, _, rfl, ⟨_, rfl⟩, rfl⟩⟩
  | addChannel channels user =>
    have hmore : FitMembers [] [] := rfl
    exact ⟨_, hindex 4 (by decide), fits_viewerScope 0 channels user hmore⟩
  | history user channels channel page pos ms =>
    exact ⟨_, hindex 5 (by decide), fits_viewerScope channel channels user
      ⟨_, _, rfl, fits_messages _, _, _, rfl, ⟨_, rfl⟩, _, _, rfl, ⟨_, rfl⟩, rfl⟩⟩
  | profile channels user other own =>
    exact ⟨_, hindex 6 (by decide), fits_viewerScope 0 channels user
      ⟨_, _, rfl, fits_person other, _, _, rfl, ⟨_, rfl⟩, rfl⟩⟩

/-- From what a page is given, and from the same with other texts, the same pieces are made, but for
the texts. -/
theorem Handed.pieces_alike {R : String → String → Prop} {name : String} {σ τ : Scope}
    (h : Handed name σ) (halike : AlikeMembers R σ τ) :
    AlikePieces R (pieces name σ) (pieces name τ) := by
  obtain ⟨shapes, hmem, hfit⟩ := h.fits
  obtain ⟨t, ht, hcheck⟩ := check_pages _ hmem
  unfold pieces
  rw [ht]
  exact Template.fill_alike hcheck frameName hfit halike

/-! ## Pages that can be made -/

/-- A page for visitors can be made. -/
theorem renders_visitors : ∀ page ∈ [("index.html", welcomeScope), ("register.html", visitorScope),
    ("login.html", visitorScope)], ∃ html, render page.1 page.2 = .ok html := by
  have hall : ∀ page ∈ [("index.html", welcomeScope), ("register.html", visitorScope),
      ("login.html", visitorScope)], (render page.1 page.2).toOption.isSome = true := by
    decide +kernel
  intro page hpage
  cases hrender : render page.1 page.2 with
  | ok html => exact ⟨html, rfl⟩
  | error fault =>
    have hsome := hall page hpage
    rw [hrender] at hsome
    cases hsome

/-- A page can be made, but for a history of more pages than can be listed. -/
theorem Handed.made {name : String} {scope : Scope} (h : Handed name scope)
    (hlimit : ∀ last, scope.lookup "max_page" = some (.int last) → last ≤ rangeLimit) :
    ∃ html, render name scope = .ok html := by
  cases h with
  | welcome => exact renders_visitors ("index.html", welcomeScope) (by simp)
  | register => exact renders_visitors ("register.html", visitorScope) (by simp)
  | login => exact renders_visitors ("login.html", visitorScope) (by simp)
  | channel id channels user description =>
    refine renders_of_fills rfl ?_
    unfold channelContent
    exact .text (.print rfl (.text (.print rfl (.text .done))))
  | addChannel channels user =>
    refine renders_of_fills rfl ?_
    unfold addChannelContent
    exact .text .done
  | history user channels channel page pos ms =>
    exact renders_history user channels channel page ms pos (hlimit _ rfl)
  | profile channels user other own => exact renders_profile user channels other own

/-! ## Texts that are replaced -/

mutual

/-- A value with each text replaced differs from the value in its texts alone. -/
theorem alike_mapTexts (f : String → String) :
    ∀ v : Value, Alike (fun s t => t = f s) v (v.mapTexts f)
  | .undefined => rfl
  | .none => rfl
  | .bool _ => rfl
  | .int _ => rfl
  | .real _ => rfl
  | .text s => ⟨f s, rfl, rfl⟩
  | .list xs => ⟨_, rfl, alikeAll_mapTexts f xs⟩
  | .map ms => ⟨_, rfl, alikeMembers_mapTexts f ms⟩

/-- So do the values of a list. -/
theorem alikeAll_mapTexts (f : String → String) :
    ∀ xs : List Value, AlikeAll (fun s t => t = f s) xs (Value.mapTextsAll f xs)
  | [] => rfl
  | x :: xs => ⟨_, _, rfl, alike_mapTexts f x, alikeAll_mapTexts f xs⟩

/-- So do the values under names. -/
theorem alikeMembers_mapTexts (f : String → String) :
    ∀ ms : Scope, AlikeMembers (fun s t => t = f s) ms (Value.mapTextsMembers f ms)
  | [] => rfl
  | (_, v) :: ms => ⟨_, _, rfl, alike_mapTexts f v, alikeMembers_mapTexts f ms⟩

end

/-- The markup of pieces is the text of the pieces with escaped texts. -/
theorem markup_eq_plain {ps qs : List Piece}
    (h : List.Forall₂ (Piece.Alike fun s t => t = Html.escape s) ps qs) :
    ps.map Piece.markup = qs.map Piece.plain := by
  induction h with
  | nil => rfl
  | cons hfirst _ ih =>
    rw [List.map_cons, List.map_cons, ih]
    cases hfirst with
    | own s => rfl
    | given h => rw [h, Piece.markup, Piece.plain]

/-- An escaped text has nothing that opens or closes a tag or an attribute value. -/
theorem marks_escape (s : String) : marks (Html.escape s) = [] := by
  refine List.filter_eq_nil_iff.2 fun c hc hmark => ?_
  obtain ⟨hlt, hgt, hquote, happ, -⟩ := (Html.harmless s).plain c hc
  simp [isMark, hlt, hgt, hquote, happ] at hmark

/-- What opens and closes tags and attribute values on a page is that of its pieces, in their
order. -/
theorem marks_join (ps : List Piece) :
    marks (Piece.join ps) = ps.flatMap fun p => marks p.markup := by
  unfold marks
  rw [Piece.toList_join, List.filter_flatMap]

/-- Pages from pieces that differ in their texts alone have the same characters that open and close
tags and attribute values. -/
theorem marks_eq_of_alike {R : String → String → Prop} {ps qs : List Piece}
    (h : List.Forall₂ (Piece.Alike R) ps qs) : marks (Piece.join ps) = marks (Piece.join qs) := by
  rw [marks_join, marks_join]
  induction h with
  | nil => rfl
  | cons hfirst _ ih =>
    rw [List.flatMap_cons, List.flatMap_cons, ih]
    cases hfirst with
    | own s => rfl
    | given _ => rw [Piece.markup, Piece.markup, marks_escape, marks_escape]

/-- No text that a page is given becomes markup. -/
theorem Handed.keepsMarkup {name : String} {scope : Scope} (h : Handed name scope) :
    KeepsMarkup name scope where
  laid html hrender := by
    obtain ⟨ps, hps, rfl⟩ := exists_of_map_eq_ok hrender
    unfold pieces at hps
    split at hps
    · cases hps
    next t ht => exact ⟨t, ps, ht, .of_fill hps, rfl⟩
  made := h.made
  escaped := ((h.pieces_alike (alikeMembers_mapTexts Html.escape scope)).map fun _ _ hpq =>
    congrArg String.join (markup_eq_plain hpq)).eq
  alike _ halike := (h.pieces_alike halike).map fun _ _ => marks_eq_of_alike

end ChatBoard.Page

import ChatBoard.Board.Messages
import ChatBoard.Proofs.Outcome

/-!
# Pages that can be made

Filling a template in fails only where an expression has no value or a loop has no elements.
`Fills` says of a template that neither happens in a scope, and has one rule for each kind of part.
The frame asks of its scope the account and the channels (`fills_frame`), which every page for a
signed-in account gives it, and the history asks for a page number and for a list of messages
(`fills_history`). The longest list is that of the links to all pages, and a range has a limit, so a
page of the history can be made as long as there are no more pages than that (`renders_history`).

`Lays` says of pieces that they are what a template lays out in a scope, part by part: its own texts
as they stand, each value by what is shown of it, one way of a condition, and the body of a loop
once for each element. What filling in gives has been laid out so (`Lays.of_fill`).

`Writes` finds a text of the template's own on the way that filling in takes, and what it finds
stands on every page that can be made in the scope (`Writes.mem`, `Piece.infix_join`).
-/

namespace ChatBoard.Page

/-- Where a condition leads is filled in, and then what follows. -/
theorem Template.fill_cond (file : String) (scope : Scope) (line : Nat) (e : Expr)
    (yes no rest : Template) :
    (Template.cond line e yes no rest).fill file scope = do
      let v ← placed file line (e.eval scope)
      let ps ← (if v.isTrue then yes else no).fill file scope
      return ps ++ (← rest.fill file scope) := by
  rw [fill]
  congr 1
  funext v
  cases v.isTrue <;> rfl

/-- A template that can be filled in. -/
def Fills (file : String) (scope : Scope) (t : Template) : Prop :=
  ∃ ps, t.fill file scope = .ok ps

namespace Fills

variable {file : String} {scope : Scope} {line : Nat} {e : Expr} {v : Value} {rest : Template}

/-- The empty template. -/
theorem done : Fills file scope .done := ⟨[], rfl⟩

/-- The template's own text. -/
theorem text {s : String} (h : Fills file scope rest) : Fills file scope (.text s rest) := by
  obtain ⟨ps, hps⟩ := h
  refine ⟨.own s :: ps, ?_⟩
  rw [Template.fill, hps]
  rfl

/-- A place for a value. -/
theorem print (hv : e.eval scope = .ok v) (h : Fills file scope rest) :
    Fills file scope (.print line e rest) := by
  obtain ⟨ps, hps⟩ := h
  refine ⟨Template.pieceOf v :: ps, ?_⟩
  rw [Template.fill, hv, hps]
  rfl

/-- A condition, with two ways to go on. -/
theorem cond {yes no : Template} (hv : e.eval scope = .ok v) (hyes : Fills file scope yes)
    (hno : Fills file scope no) (h : Fills file scope rest) :
    Fills file scope (.cond line e yes no rest) := by
  obtain ⟨ps, hps⟩ := h
  obtain ⟨ys, hys⟩ := hyes
  obtain ⟨ns, hns⟩ := hno
  rw [Fills, Template.fill, hv, hps, hys, hns]
  cases hb : v.isTrue with
  | true => exact ⟨ys ++ ps, by simp only [Template.placed, bind, Except.bind, hb]; rfl⟩
  | false => exact ⟨ns ++ ps, by simp only [Template.placed, bind, Except.bind, hb]; rfl⟩

/-- A loop over the elements of a value. -/
theorem each {x : String} {body : Template} {xs : List Value} (hv : e.eval scope = .ok v)
    (hxs : v.elements? = some xs) (hbody : ∀ w ∈ xs, Fills file ((x, w) :: scope) body)
    (h : Fills file scope rest) : Fills file scope (.each line x e body rest) := by
  obtain ⟨ps, hps⟩ := h
  obtain ⟨pss, hpss⟩ := mapM_isOk hbody
  refine ⟨pss.flatten ++ ps, ?_⟩
  have helements : Template.elementsOf v = .ok xs := by
    unfold Template.elementsOf
    rw [hxs]
  rw [Template.fill, hv, hps]
  show (do
    let vs ← Template.placed file line (Template.elementsOf v)
    let pss ← vs.mapM fun w => body.fill file ((x, w) :: scope)
    return pss.flatten ++ ps) = _
  rw [helements]
  show (do
    let pss ← xs.mapM fun w => body.fill file ((x, w) :: scope)
    return pss.flatten ++ ps) = _
  rw [hpss]
  rfl

/-- A part that stands in another file. -/
theorem block {inner : String} {body : Template} (hbody : Fills inner scope body)
    (h : Fills file scope rest) : Fills file scope (.block inner body rest) := by
  obtain ⟨ps, hps⟩ := h
  obtain ⟨bs, hbs⟩ := hbody
  refine ⟨bs ++ ps, ?_⟩
  rw [Template.fill, hbs, hps]
  rfl

end Fills

/-- The frame can be filled in for a signed-in account around a content that can. -/
theorem fills_frame {file : String} {content : Template} {channel : Int}
    {channels : List (Entry Channel)} {user : Entry User} {more : Scope}
    (h : Fills file (viewerScope channel channels user more) content) :
    Fills frameName (viewerScope channel channels user more) (frame file content) := by
  have hlist : (Value.ofChannels channels).elements?
      = some (channels.map fun e => .ofChannel (channelInfo e)) := rfl
  -- The account is asked for by a condition, the channels are a loop, and then comes the content.
  unfold frame
  refine .text (.cond rfl ?_ ?_ (.text (.each rfl hlist ?_ (.text (.block h (.text .done))))))
  · exact .text (.print rfl (.text (.print rfl (.text .done))))
  · exact .text .done
  · intro w hw
    obtain ⟨e, -, rfl⟩ := List.mem_map.1 hw
    exact .text (.cond rfl (.text .done) .done (.text (.print rfl (.text (.print rfl (.text
      (.print rfl (.text .done))))))))

/-- The numbers of the pages up to the last one can be listed if they are not too many. -/
theorem eval_range {last : Int} (pos : 1 ≤ last) (le : last ≤ rangeLimit) :
    Expr.rangeOf (.int 1) (.int (last + 1))
      = .ok (.list ((List.range last.toNat).map fun (n : Nat) => .int (1 + n))) := by
  have hlimit : (rangeLimit : Int) = 100000 := rfl
  have hone : rangeBound? (.int 1) = some 1 := rfl
  have hlast : rangeBound? (.int (last + 1)) = some (last + 1) :=
    if_pos ⟨by omega, by omega⟩
  have hcount : (last + 1 - 1).toNat = last.toNat := by
    rw [Int.add_sub_cancel]
  -- The range ends before its second bound, so it has as many numbers as there are pages.
  unfold Expr.rangeOf
  rw [hone, hlast]
  dsimp only
  rw [hcount, if_neg (by omega)]

/-- A page of the history can be filled in if there are not too many pages. -/
theorem fills_history {file : String} {user : Entry User} {channels : List (Entry Channel)}
    {channel page last : Int} {ms : List AuthoredMessage} (pos : 1 ≤ last)
    (le : last ≤ rangeLimit) :
    Fills file (Messages.historyScope user channels channel page last ms) historyContent := by
  have hmessages : (Value.list ((chronological ms).map .ofMessage)).elements?
      = some ((chronological ms).map .ofMessage) := rfl
  have hrange := eval_range pos le
  -- A loop over the messages, the link to the page before, a loop over the numbers of all pages,
  -- and the link to the page after.
  unfold historyContent
  refine .text (.each rfl hmessages ?_ (.text (.cond rfl ?_ .done (.text
    (.each hrange rfl ?_ (.text (.cond rfl ?_ .done (.text .done))))))))
  · intro w hw
    obtain ⟨m, -, rfl⟩ := List.mem_map.1 hw
    exact .text (.print rfl (.text (.print rfl (.text (.print rfl (.text (.print rfl (.text
      (.print rfl (.text (.print rfl (.text .done))))))))))))
  · exact .text (.print rfl (.text (.print rfl (.text .done))))
  · intro w hw
    obtain ⟨n, -, rfl⟩ := List.mem_map.1 hw
    exact .text (.cond rfl (.text .done) .done (.text (.print rfl (.text (.print rfl (.text
      (.print rfl (.text .done))))))))
  · exact .text (.print rfl (.text (.print rfl (.text .done))))

/-- A page can be made if its content can be filled in, for a signed-in account. -/
theorem renders_of_fills {name : String} {content : Template} {channel : Int}
    {channels : List (Entry Channel)} {user : Entry User} {more : Scope}
    (htemplate : template? name = some (frame name content))
    (h : Fills name (viewerScope channel channels user more) content) :
    ∃ html, render name (viewerScope channel channels user more) = .ok html := by
  obtain ⟨ps, hps⟩ := fills_frame h
  refine ⟨Piece.join ps, ?_⟩
  unfold render pieces
  rw [htemplate]
  dsimp only
  rw [hps]
  rfl

/-- A page of the history can be made if there are not too many pages. -/
theorem renders_history (user : Entry User) (channels : List (Entry Channel))
    (channel page : Int) {last : Int} (ms : List AuthoredMessage) (pos : 1 ≤ last)
    (le : last ≤ rangeLimit) :
    ∃ html, render "history.html"
      (Messages.historyScope user channels channel page last ms) = .ok html :=
  renders_of_fills rfl (fills_history pos le)

/-- The page of an account can be made. -/
theorem renders_profile (user : Entry User) (channels : List (Entry Channel)) (other : PublicUser)
    (own : Bool) :
    ∃ html, render "profile.html" (viewerScope 0 channels user
      [("other", .ofPublicUser other), ("self_profile", .bool own)]) = .ok html := by
  refine renders_of_fills rfl ?_
  unfold profileContent
  exact .text (.print rfl (.text (.print rfl (.text (.print rfl (.text
    (.cond rfl (.text (.print rfl (.text .done))) .done (.text .done))))))))

/-! ## What a template lays out -/

mutual

/-- A template lays out pieces in a scope, one part after the other. -/
inductive Lays : Scope → Template → List Piece → Prop where
  | done {scope : Scope} : Lays scope .done []
  /-- Its own text stands on the page as it is. -/
  | text {scope : Scope} {s : String} {rest : Template} {ps : List Piece}
      (more : Lays scope rest ps) : Lays scope (.text s rest) (.own s :: ps)
  /-- A value without markup stands as it is shown. -/
  | plain {scope : Scope} {line : Nat} {e : Expr} {v : Value} {s : String} {rest : Template}
      {ps : List Piece} (value : e.eval scope = .ok v) (shown : v.shown = .plain s)
      (more : Lays scope rest ps) : Lays scope (.print line e rest) (.own s :: ps)
  /-- Any other value is a text that is given. -/
  | given {scope : Scope} {line : Nat} {e : Expr} {v : Value} {s : String} {rest : Template}
      {ps : List Piece} (value : e.eval scope = .ok v) (shown : v.shown = .text s)
      (more : Lays scope rest ps) : Lays scope (.print line e rest) (.given s :: ps)
  /-- A condition goes one of its two ways. -/
  | cond {scope : Scope} {line : Nat} {e : Expr} {v : Value} {yes no rest : Template}
      {qs ps : List Piece} (value : e.eval scope = .ok v)
      (way : Lays scope (if v.isTrue then yes else no) qs) (more : Lays scope rest ps) :
      Lays scope (.cond line e yes no rest) (qs ++ ps)
  /-- A loop lays out its body for each element of a value. -/
  | each {scope : Scope} {line : Nat} {x : String} {e : Expr} {v : Value} {ws : List Value}
      {body rest : Template} {qs ps : List Piece} (value : e.eval scope = .ok v)
      (elements : v.elements? = some ws) (rounds : LaysEach scope x body ws qs)
      (more : Lays scope rest ps) : Lays scope (.each line x e body rest) (qs ++ ps)
  | block {scope : Scope} {file : String} {body rest : Template} {qs ps : List Piece}
      (inside : Lays scope body qs) (more : Lays scope rest ps) :
      Lays scope (.block file body rest) (qs ++ ps)

/-- The body of a loop lays out pieces for each of some elements in turn. -/
inductive LaysEach : Scope → String → Template → List Value → List Piece → Prop where
  | nil {scope : Scope} {x : String} {body : Template} : LaysEach scope x body [] []
  | cons {scope : Scope} {x : String} {body : Template} {w : Value} {ws : List Value}
      {qs ps : List Piece} (first : Lays ((x, w) :: scope) body qs)
      (others : LaysEach scope x body ws ps) : LaysEach scope x body (w :: ws) (qs ++ ps)

end

/-- Rounds of which each is laid out are laid out in turn. -/
theorem LaysEach.of_forall₂ {scope : Scope} {x : String} {body : Template} {ws : List Value}
    {qss : List (List Piece)}
    (h : List.Forall₂ (fun w qs => Lays ((x, w) :: scope) body qs) ws qss) :
    LaysEach scope x body ws qss.flatten := by
  induction h with
  | nil => exact .nil
  | cons hfirst _ ih => exact .cons hfirst ih

/-- What has a place has come about without a misuse. -/
theorem of_placed_eq_ok {α : Type} {file : String} {line : Nat} {x : Except Misuse α} {a : α}
    (h : Template.placed file line x = .ok a) : x = .ok a := by
  cases x with
  | ok b =>
    cases h
    rfl
  | error m => cases h

/-- What a template is filled in to is what it lays out. -/
theorem Lays.of_fill {file : String} {scope : Scope} {t : Template} {ps : List Piece}
    (h : t.fill file scope = .ok ps) : Lays scope t ps := by
  induction t generalizing file scope ps with
  | done =>
    cases h
    exact .done
  | text s rest ih =>
    obtain ⟨qs, hqs, h⟩ := exists_of_bind_eq_ok h
    cases h
    exact .text (ih hqs)
  | print line e rest ih =>
    obtain ⟨v, hv, h⟩ := exists_of_bind_eq_ok h
    obtain ⟨qs, hqs, h⟩ := exists_of_bind_eq_ok h
    cases h
    have hvalue := of_placed_eq_ok hv
    unfold Template.pieceOf
    cases hshown : v.shown with
    | plain s => exact .plain hvalue hshown (ih hqs)
    | text s => exact .given hvalue hshown (ih hqs)
  | cond line e yes no rest ihyes ihno ih =>
    rw [Template.fill_cond] at h
    obtain ⟨v, hv, h⟩ := exists_of_bind_eq_ok h
    obtain ⟨qs, hqs, h⟩ := exists_of_bind_eq_ok h
    obtain ⟨rs, hrs, h⟩ := exists_of_bind_eq_ok h
    cases h
    refine .cond (of_placed_eq_ok hv) ?_ (ih hrs)
    split at hqs
    next hholds => rw [if_pos hholds]; exact ihyes hqs
    next hfails => rw [if_neg hfails]; exact ihno hqs
  | each line x e body rest ihbody ih =>
    obtain ⟨v, hv, h⟩ := exists_of_bind_eq_ok h
    obtain ⟨vs, hvs, h⟩ := exists_of_bind_eq_ok h
    obtain ⟨qss, hqss, h⟩ := exists_of_bind_eq_ok h
    obtain ⟨rs, hrs, h⟩ := exists_of_bind_eq_ok h
    cases h
    have helements : v.elements? = some vs := by
      have hfound := of_placed_eq_ok hvs
      unfold Template.elementsOf at hfound
      split at hfound
      next xs hxs =>
        cases hfound
        exact hxs
      · cases hfound
    -- Each round is filled in with its element as the innermost name.
    have hrounds : List.Forall₂ (fun w qs => Lays ((x, w) :: scope) body qs) vs qss :=
      (forall₂_of_mapM_eq_ok hqss).imp fun _ _ hround => ihbody hround
    exact .each (of_placed_eq_ok hv) helements (.of_forall₂ hrounds) (ih hrs)
  | block inner body rest ihbody ih =>
    obtain ⟨qs, hqs, h⟩ := exists_of_bind_eq_ok h
    obtain ⟨rs, hrs, h⟩ := exists_of_bind_eq_ok h
    cases h
    exact .block (ihbody hqs) (ih hrs)

/-! ## Text of a template -/

/-- A template writes a text of its own: at its top, where a condition leads, or in a part that
stands in another file. -/
inductive Writes (scope : Scope) (s : String) : Template → Prop where
  | here {rest : Template} : Writes scope s (.text s rest)
  | text {t : String} {rest : Template} (more : Writes scope s rest) : Writes scope s (.text t rest)
  | print {line : Nat} {e : Expr} {rest : Template} (more : Writes scope s rest) :
      Writes scope s (.print line e rest)
  | yes {line : Nat} {e : Expr} {v : Value} {yes no rest : Template} (value : e.eval scope = .ok v)
      (holds : v.isTrue = true) (inside : Writes scope s yes) :
      Writes scope s (.cond line e yes no rest)
  | cond {line : Nat} {e : Expr} {yes no rest : Template} (more : Writes scope s rest) :
      Writes scope s (.cond line e yes no rest)
  | each {line : Nat} {x : String} {e : Expr} {body rest : Template} (more : Writes scope s rest) :
      Writes scope s (.each line x e body rest)
  | inside {file : String} {body rest : Template} (inside : Writes scope s body) :
      Writes scope s (.block file body rest)

/-- A text that a template writes is a piece of what it gives. -/
theorem Writes.mem {scope : Scope} {s : String} {t : Template} (h : Writes scope s t)
    {file : String} {ps : List Piece} (hfill : t.fill file scope = .ok ps) : .own s ∈ ps := by
  induction h generalizing file ps with
  | here =>
    obtain ⟨rest, -, hps⟩ := exists_of_bind_eq_ok hfill
    cases hps
    exact List.mem_cons_self
  | text _ ih =>
    obtain ⟨rest, hrest, hps⟩ := exists_of_bind_eq_ok hfill
    cases hps
    exact List.mem_cons_of_mem _ (ih hrest)
  | print _ ih =>
    obtain ⟨v, -, hfill⟩ := exists_of_bind_eq_ok hfill
    obtain ⟨rest, hrest, hps⟩ := exists_of_bind_eq_ok hfill
    cases hps
    exact List.mem_cons_of_mem _ (ih hrest)
  | yes hvalue hholds _ ih =>
    rw [Template.fill_cond, hvalue] at hfill
    obtain ⟨v, hv, hfill⟩ := exists_of_bind_eq_ok hfill
    cases hv
    rw [if_pos hholds] at hfill
    obtain ⟨inner, hinner, hfill⟩ := exists_of_bind_eq_ok hfill
    obtain ⟨rest, -, hps⟩ := exists_of_bind_eq_ok hfill
    cases hps
    exact List.mem_append_left _ (ih hinner)
  | cond _ ih =>
    rw [Template.fill_cond] at hfill
    obtain ⟨v, -, hfill⟩ := exists_of_bind_eq_ok hfill
    obtain ⟨inner, -, hfill⟩ := exists_of_bind_eq_ok hfill
    obtain ⟨rest, hrest, hps⟩ := exists_of_bind_eq_ok hfill
    cases hps
    exact List.mem_append_right _ (ih hrest)
  | each _ ih =>
    obtain ⟨v, -, hfill⟩ := exists_of_bind_eq_ok hfill
    obtain ⟨vs, -, hfill⟩ := exists_of_bind_eq_ok hfill
    obtain ⟨inner, -, hfill⟩ := exists_of_bind_eq_ok hfill
    obtain ⟨rest, hrest, hps⟩ := exists_of_bind_eq_ok hfill
    cases hps
    exact List.mem_append_right _ (ih hrest)
  | inside _ ih =>
    obtain ⟨inner, hinner, hfill⟩ := exists_of_bind_eq_ok hfill
    obtain ⟨rest, -, hps⟩ := exists_of_bind_eq_ok hfill
    cases hps
    exact List.mem_append_left _ (ih hinner)

/-- The characters of a page are those of its pieces. -/
theorem Piece.toList_join (ps : List Piece) :
    (join ps).toList = ps.flatMap fun p => p.markup.toList := by
  unfold join
  rw [String.toList_join, List.flatMap_map]

/-- The markup of a piece stands on the page. -/
theorem Piece.infix_join {p : Piece} {ps : List Piece} (h : p ∈ ps) :
    p.markup.toList <:+: (join ps).toList := by
  rw [toList_join]
  exact List.infix_of_mem_flatten (List.mem_map.2 ⟨p, h, rfl⟩)

end ChatBoard.Page

namespace ChatBoard

/-- What shows a page that can be made is the page. -/
theorem Response.ofPage_of_render {name : String} {scope : Page.Scope} {html : String}
    (h : Page.render name scope = .ok html) : ofPage name scope = .page html := by
  unfold ofPage
  rw [h]

end ChatBoard

import ChatBoard.Proofs.Codec.Html
import ChatBoard.Proofs.Page.Fill
import ChatBoard.Proofs.Text.Numeral

/-!
# Links between pages

`linksIn` reads the links of a list of pages off the markup, wherever one begins. Text is quiet if
no link begins in it, whatever follows (`Holds` with no links); texts that are given to a page are
quiet since they have nothing that opens a tag, and a template's own text is quiet if it neither has
nor begins the opening of a link (`isQuiet`). What a text and another one after it hold is held in a
row (`Holds.append`), so the links of a page are those of the parts of its template (`Yields`). On a
page of the history these are the link to the page before, one link for each page, and the link to
the page after (`links_history`).
-/

namespace ChatBoard.Page

/-! ## Reading links -/

/-- A link of a list of pages: whether it is marked, where it leads, and what it shows. -/
structure PageLink where
  active : Bool
  target : String
  label : String
  deriving DecidableEq, Repr

/-- What opens a link after its first character, up to the mark. -/
def itemRest : List Char := "li class=\"page-item".toList

/-- What opens a link, up to the mark. -/
def itemOpening : List Char := '<' :: itemRest

/-- The mark of a link. -/
def activeMark : List Char := " active".toList

/-- What stands between the mark of a link and where it leads. -/
def targetOpening : List Char := "\"><a class=\"page-link\" href=\"".toList

/-- What stands between where a link leads and what it shows. -/
def labelOpening : List Char := "\">".toList

/-- What closes a link. -/
def itemClosing : List Char := "</a></li>".toList

/-- What follows a beginning, if the text has it. -/
def after? (beginning cs : List Char) : Option (List Char) :=
  if beginning.isPrefixOf cs then some (cs.drop beginning.length) else none

/-- The mark of a link, and what follows. -/
def readActive (cs : List Char) : Bool × List Char :=
  match after? activeMark cs with
  | some rest => (true, rest)
  | none => (false, cs)

/-- The link that begins a text, if one does. -/
def linkAt? (cs : List Char) : Option PageLink := do
  let (active, cs) := readActive (← after? itemOpening cs)
  let cs ← after? targetOpening cs
  let target := cs.takeWhile (· != '"')
  let cs ← after? labelOpening (cs.drop target.length)
  let label := cs.takeWhile (· != '<')
  let _ ← after? itemClosing (cs.drop label.length)
  return ⟨active, String.ofList target, String.ofList label⟩

/-- The links of a text, in order. -/
def linksIn : List Char → List PageLink
  | [] => []
  | c :: cs => (linkAt? (c :: cs)).toList ++ linksIn cs

namespace PageLink

/-- What stands in a link after its opening. -/
def inside (l : PageLink) : List Char :=
  (if l.active then activeMark else []) ++ (targetOpening ++ (l.target.toList ++ (labelOpening
    ++ (l.label.toList ++ itemClosing))))

/-- A link as it is written. -/
def markup (l : PageLink) : List Char := itemOpening ++ l.inside

/-- A link whose parts end where its markup goes on. -/
structure Plain (l : PageLink) : Prop where
  target : '"' ∉ l.target.toList ∧ '<' ∉ l.target.toList
  label : '<' ∉ l.label.toList

end PageLink

/-- What follows a beginning is found. -/
theorem after?_append (beginning cs : List Char) :
    after? beginning (beginning ++ cs) = some cs := by
  unfold after?
  rw [if_pos (List.isPrefixOf_iff_prefix.2 (List.prefix_append _ _)), List.drop_left]

/-- A text up to a character that it does not have is taken whole. -/
theorem takeWhile_of_not_mem {c : Char} {cs : List Char} (h : c ∉ cs) (rest : List Char) :
    (cs ++ c :: rest).takeWhile (· != c) = cs := by
  have hother : ∀ d ∈ cs, (d != c) = true := by
    intro d hd
    refine bne_iff_ne.2 fun heq => h ?_
    rwa [← heq]
  rw [List.takeWhile_append_of_pos hother, List.takeWhile_cons_of_neg (by simp), List.append_nil]

/-- A link is read from its markup, whatever follows. -/
theorem linkAt?_markup {l : PageLink} (h : l.Plain) (rest : List Char) :
    linkAt? (l.markup ++ rest) = some l := by
  obtain ⟨active, target, label⟩ := l
  have hactive : ∀ cs, readActive ((if active then activeMark else []) ++ (targetOpening ++ cs))
      = (active, targetOpening ++ cs) := by
    intro cs
    unfold readActive
    cases active with
    | true => rw [if_pos rfl, after?_append]
    | false => rfl
  have htarget : ∀ cs, (target.toList ++ (labelOpening ++ cs)).takeWhile (· != '"')
      = target.toList := fun cs => takeWhile_of_not_mem h.target.1 _
  have hlabel : ∀ cs, (label.toList ++ (itemClosing ++ cs)).takeWhile (· != '<')
      = label.toList := fun cs => takeWhile_of_not_mem h.label _
  unfold linkAt? PageLink.markup PageLink.inside
  simp only [List.append_assoc, after?_append, Option.bind_eq_bind, Option.bind_some, hactive,
    htarget, hlabel, List.drop_left, String.ofList_toList]
  rfl

/-! ## Texts and their links -/

/-- A text holds links: they are read in it, whatever follows. -/
def Holds (cs : List Char) (ls : List PageLink) : Prop :=
  ∀ rest, linksIn (cs ++ rest) = ls ++ linksIn rest

/-- A text neither has nor begins the opening of a link. -/
def isQuiet : List Char → Bool
  | [] => true
  | c :: cs => (c != '<' || !(cs.isPrefixOf itemRest || itemRest.isPrefixOf cs)) && isQuiet cs

namespace Holds

variable {cs ds : List Char} {ls ms : List PageLink}

/-- The empty text holds no links. -/
theorem nil : Holds [] [] := fun _ => rfl

/-- Texts hold their links in a row. -/
theorem append (h : Holds cs ls) (h' : Holds ds ms) : Holds (cs ++ ds) (ls ++ ms) := by
  intro rest
  rw [List.append_assoc, h, h', List.append_assoc]

/-- A character with which no link begins holds none. -/
theorem cons {c : Char} (hc : ∀ rest, linkAt? (c :: (cs ++ rest)) = none) (h : Holds cs ls) :
    Holds (c :: cs) ls := by
  intro rest
  rw [List.cons_append, linksIn, hc, h]
  rfl

/-- A text that does not begin as a link does begins none. -/
theorem linkAt?_none (h : ¬ itemOpening <+: cs) : linkAt? cs = none := by
  have hafter : after? itemOpening cs = none := if_neg (mt List.isPrefixOf_iff_prefix.1 h)
  unfold linkAt?
  rw [hafter]
  rfl

/-- A text that opens no tag holds no links. -/
theorem of_not_mem (h : '<' ∉ cs) : Holds cs [] := by
  induction cs with
  | nil => exact nil
  | cons c cs ih =>
    rw [List.mem_cons, not_or] at h
    refine cons (fun rest => linkAt?_none fun hprefix => h.1 ?_) (ih h.2)
    exact (List.cons_prefix_cons.1 hprefix).1

/-- A quiet text holds no links. -/
theorem of_isQuiet (h : isQuiet cs = true) : Holds cs [] := by
  induction cs with
  | nil => exact nil
  | cons c cs ih =>
    rw [isQuiet, Bool.and_eq_true, Bool.or_eq_true, bne_iff_ne] at h
    obtain ⟨hfirst, hmore⟩ := h
    refine cons (fun rest => linkAt?_none fun hprefix => ?_) (ih hmore)
    obtain ⟨rfl, hrest⟩ := List.cons_prefix_cons.1 hprefix
    rcases hfirst with hother | hquiet
    · exact hother rfl
    · -- The opening and the text would go on in the same way.
      rw [Bool.not_eq_true', Bool.or_eq_false_iff] at hquiet
      rcases List.prefix_or_prefix_of_prefix hrest (List.prefix_append cs rest) with
        hopens | hbegins
      · rw [List.isPrefixOf_iff_prefix.2 hopens] at hquiet
        cases hquiet.2
      · rw [List.isPrefixOf_iff_prefix.2 hbegins] at hquiet
        cases hquiet.1

/-- Lines that are quiet are quiet together. -/
theorem of_lines {ls : List String} (h : ls.all (fun l => isQuiet l.toList) = true) :
    Holds (lines ls).toList [] := by
  have hall := List.all_eq_true.1 h
  have hbreak : Holds "\n".toList [] := of_isQuiet (by decide +kernel)
  unfold lines
  rw [String.toList_intercalate]
  clear h
  induction ls with
  | nil => exact nil
  | cons l ls ih =>
    obtain ⟨hfirst, hrest⟩ := List.forall_mem_cons.1 hall
    cases ls with
    | nil =>
      rw [List.map_singleton, List.intercalate_singleton]
      exact of_isQuiet hfirst
    | cons l' ls =>
      rw [List.map_cons, List.map_cons, List.intercalate_cons_cons]
      exact ((of_isQuiet hfirst).append hbreak).append (ih hrest)

/-- A link holds itself. -/
theorem markup {l : PageLink} (h : l.Plain) : Holds l.markup [l] := by
  have hinside : Holds l.inside [] := by
    have hactive : Holds (if l.active then activeMark else []) [] := by
      split
      · exact of_isQuiet (by decide +kernel)
      · exact nil
    have htarget : Holds targetOpening [] := of_isQuiet (by decide +kernel)
    have hlabel : Holds labelOpening [] := of_isQuiet (by decide +kernel)
    have hclosing : Holds itemClosing [] := of_isQuiet (by decide +kernel)
    exact hactive.append (htarget.append ((of_not_mem h.target.2).append
      (hlabel.append ((of_not_mem h.label).append hclosing))))
  -- A link begins with the first character, and none with the others of the opening.
  have hmore : Holds itemRest [] := of_not_mem (by decide)
  intro rest
  have hfirst := linkAt?_markup h rest
  have hrest := hmore.append hinside rest
  unfold PageLink.markup itemOpening at hfirst ⊢
  rw [List.cons_append, List.cons_append] at hfirst ⊢
  rw [linksIn, hfirst, hrest]
  rfl

/-- What a text holds as a whole. -/
theorem linksIn_eq (h : Holds cs ls) : linksIn cs = ls := by
  have hwhole := h []
  rwa [List.append_nil, linksIn, List.append_nil] at hwhole

end Holds

/-! ## Templates and their links -/

/-- The characters of pieces. -/
def chars (ps : List Piece) : List Char := ps.flatMap fun p => p.markup.toList

/-- The characters of a text of the template's own come before those of what follows. -/
theorem chars_own (s : String) (ps : List Piece) :
    chars (.own s :: ps) = s.toList ++ chars ps := rfl

/-- The characters of pieces before others come first. -/
theorem chars_append (ps qs : List Piece) : chars (ps ++ qs) = chars ps ++ chars qs :=
  List.flatMap_append

/-- What stands around the links of a list. -/
def lineBreak : List Char := "\n    ".toList

/-- A value shows as a text that opens no tag. -/
def ShowsPlain (v : Value) : Prop := '<' ∉ (Template.pieceOf v).markup.toList

/-- A character that is neither a digit nor a minus sign stands in no numeral. -/
theorem not_mem_ofInt {c : Char} (hdigit : c.isDigit = false) (hminus : c ≠ '-') (i : Int) :
    c ∉ (Numeral.ofInt i).toList := by
  intro hmem
  rcases Numeral.isDigit_ofInt i c hmem with hc | hc
  · rw [hdigit] at hc
    cases hc
  · exact hminus hc

/-- A number opens no tag. -/
theorem showsPlain_int (i : Int) : ShowsPlain (.int i) := not_mem_ofInt rfl (by decide) i

/-- A text that is given opens no tag. -/
theorem showsPlain_text (s : String) : ShowsPlain (.text s) :=
  fun hmem => ((Html.harmless s).plain _ hmem).1 rfl

/-- A template can be filled in, and holds links. -/
def Yields (file : String) (scope : Scope) (t : Template) (ls : List PageLink) : Prop :=
  ∃ ps, t.fill file scope = .ok ps ∧ Holds (chars ps) ls

namespace Yields

variable {file : String} {scope : Scope} {line : Nat} {e : Expr} {v : Value}
  {rest : Template} {ls ms : List PageLink}

/-- The empty template. -/
theorem done : Yields file scope .done [] := ⟨[], rfl, .nil⟩

/-- The template's own text. -/
theorem text {s : String} (hs : Holds s.toList []) (h : Yields file scope rest ls) :
    Yields file scope (.text s rest) ls := by
  obtain ⟨ps, hps, hlinks⟩ := h
  refine ⟨.own s :: ps, ?_, hs.append hlinks⟩
  rw [Template.fill, hps]
  rfl

/-- A quiet text of the template's own. -/
theorem word {s : String} (hs : isQuiet s.toList = true) (h : Yields file scope rest ls) :
    Yields file scope (.text s rest) ls := text (.of_isQuiet hs) h

/-- Quiet lines of the template's own. -/
theorem lines {texts : List String} (hs : texts.all (fun l => isQuiet l.toList) = true)
    (h : Yields file scope rest ls) : Yields file scope (.text (Page.lines texts) rest) ls :=
  text (.of_lines hs) h

/-- A place for a value. -/
theorem print (hv : e.eval scope = .ok v) (hplain : ShowsPlain v) (h : Yields file scope rest ls) :
    Yields file scope (.print line e rest) ls := by
  obtain ⟨ps, hps, hlinks⟩ := h
  refine ⟨Template.pieceOf v :: ps, ?_, (Holds.of_not_mem hplain).append hlinks⟩
  rw [Template.fill, hv, hps]
  rfl

/-- A condition, with the way that is taken. -/
theorem cond {yes no : Template} (hv : e.eval scope = .ok v)
    (hway : Yields file scope (if v.isTrue then yes else no) ls) (h : Yields file scope rest ms) :
    Yields file scope (.cond line e yes no rest) (ls ++ ms) := by
  obtain ⟨ps, hps, hlinks⟩ := h
  obtain ⟨qs, hqs, hway⟩ := hway
  refine ⟨qs ++ ps, ?_, ?_⟩
  · rw [Template.fill_cond, hv]
    show (do
      let qs ← (if v.isTrue then yes else no).fill file scope
      return qs ++ (← rest.fill file scope)) = _
    rw [hqs, hps]
    rfl
  · unfold chars at hway hlinks ⊢
    rw [List.flatMap_append]
    exact hway.append hlinks

/-- A condition without links on the way that is taken. -/
theorem mark {yes no : Template} (hv : e.eval scope = .ok v)
    (hway : Yields file scope (if v.isTrue then yes else no) []) (h : Yields file scope rest ms) :
    Yields file scope (.cond line e yes no rest) ms := cond hv hway h

/-- A loop, with the links of each round. -/
theorem each {x : String} {body : Template} {xs : List Value} {links : Value → List PageLink}
    (hv : e.eval scope = .ok v) (hxs : v.elements? = some xs)
    (hbody : ∀ w ∈ xs, Yields file ((x, w) :: scope) body (links w))
    (h : Yields file scope rest ms) :
    Yields file scope (.each line x e body rest) (xs.flatMap links ++ ms) := by
  have hrounds : ∃ pss, (xs.mapM fun w => body.fill file ((x, w) :: scope)) = .ok pss
      ∧ Holds (chars pss.flatten) (xs.flatMap links) := by
    clear hxs
    induction xs with
    | nil => exact ⟨[], rfl, .nil⟩
    | cons w xs ih =>
      obtain ⟨hfirst, hmore⟩ := List.forall_mem_cons.1 hbody
      obtain ⟨ps, hps, hlinks⟩ := hfirst
      obtain ⟨pss, hpss, hrest⟩ := ih hmore
      refine ⟨ps :: pss, ?_, ?_⟩
      · rw [List.mapM_cons, hps, hpss]
        rfl
      · unfold chars at hlinks hrest ⊢
        rw [List.flatten_cons, List.flatMap_append, List.flatMap_cons]
        exact hlinks.append hrest
  obtain ⟨ps, hps, hlinks⟩ := h
  obtain ⟨pss, hpss, hrounds⟩ := hrounds
  have helements : Template.elementsOf v = .ok xs := by
    unfold Template.elementsOf
    rw [hxs]
  refine ⟨pss.flatten ++ ps, ?_, ?_⟩
  · rw [Template.fill, hv, hps]
    show (do
      let vs ← Template.placed file line (Template.elementsOf v)
      let pss ← vs.mapM fun w => body.fill file ((x, w) :: scope)
      return pss.flatten ++ ps) = _
    rw [helements]
    show (do
      let pss ← xs.mapM fun w => body.fill file ((x, w) :: scope)
      return pss.flatten ++ ps) = _
    rw [hpss]
    rfl
  · unfold chars at hrounds hlinks ⊢
    rw [List.flatMap_append]
    exact hrounds.append hlinks

/-- A part that stands in another file. -/
theorem block {inner : String} {body : Template} (hbody : Yields inner scope body ls)
    (h : Yields file scope rest ms) : Yields file scope (.block inner body rest) (ls ++ ms) := by
  obtain ⟨ps, hps, hlinks⟩ := h
  obtain ⟨bs, hbs, hbody⟩ := hbody
  refine ⟨bs ++ ps, ?_, ?_⟩
  · rw [Template.fill, hbs, hps]
    rfl
  · unfold chars at hbody hlinks ⊢
    rw [List.flatMap_append]
    exact hbody.append hlinks

/-- A template that makes the markup of a link on a line of its own. -/
theorem link {t : Template} {l : PageLink} {ps : List Piece} (hps : t.fill file scope = .ok ps)
    (hchars : chars ps = lineBreak ++ (l.markup ++ lineBreak)) (hplain : l.Plain) :
    Yields file scope t [l] := by
  have hbreak : Holds lineBreak [] := .of_isQuiet (by decide +kernel)
  refine ⟨ps, hps, ?_⟩
  rw [hchars]
  exact hbreak.append ((Holds.markup hplain).append hbreak)

end Yields

/-! ## The pages of the board -/

variable {file : String} {user : Entry User} {channels : List (Entry Channel)}
  {channel page last : Int}

/-- The frame holds the links of its content and no others. -/
theorem yields_frame {content : Template} {more : Scope} {ls : List PageLink}
    (h : Yields file (viewerScope channel channels user more) content ls) :
    Yields frameName (viewerScope channel channels user more) (frame file content) ls := by
  have hlist : (Value.ofChannels channels).elements?
      = some (channels.map fun e => .ofChannel (channelInfo e)) := rfl
  have hnone : (channels.map fun e => Value.ofChannel (channelInfo e)).flatMap
      (fun _ => ([] : List PageLink)) = [] := by simp
  have hmark : ∀ (scope : Scope) (b : Bool),
      Yields frameName scope (if b then .text " active" .done else .done) [] := by
    intro scope b
    cases b
    · exact .done
    · exact .word (by decide +kernel) .done
  have hall : Yields frameName (viewerScope channel channels user more) (frame file content)
      ((channels.map fun e => Value.ofChannel (channelInfo e)).flatMap (fun _ => [])
        ++ (ls ++ [])) := by
    unfold frame
    refine .lines (by decide +kernel) (.mark rfl ?_ (.lines (by decide +kernel)
      (.each rfl hlist ?_ (.lines (by decide +kernel) (.block h (.lines (by decide +kernel)
        .done))))))
    · exact .lines (by decide +kernel) (.print rfl (showsPlain_text _) (.word (by decide +kernel)
        (.print rfl (showsPlain_text _) (.lines (by decide +kernel) .done))))
    · intro w hw
      obtain ⟨e, -, rfl⟩ := List.mem_map.1 hw
      exact .lines (by decide +kernel) (.mark rfl (hmark _ _) (.lines (by decide +kernel)
        (.print rfl (showsPlain_int _) (.lines (by decide +kernel) (.print rfl (showsPlain_text _)
          (.lines (by decide +kernel) (.print rfl (showsPlain_int _) (.lines (by decide +kernel)
            .done))))))))
  rwa [hnone, List.nil_append, List.append_nil] at hall

/-- Where the link to a page of the history leads. -/
def historyTarget (channel page : Int) : String :=
  "/history/" ++ Numeral.ofInt channel ++ "?page=" ++ Numeral.ofInt page

/-- The link to the page before, if there is one. -/
def previousLink (channel page : Int) : List PageLink :=
  if 1 < page then [⟨false, historyTarget channel (page - 1), "&laquo;"⟩] else []

/-- The link to a page by its number. It is marked on the page itself. -/
def numberedLink (channel page number : Int) : PageLink :=
  ⟨number == page, historyTarget channel number, Numeral.ofInt number⟩

/-- The link to the page after, if there is one. -/
def nextLink (channel page last : Int) : List PageLink :=
  if page < last then [⟨false, historyTarget channel (page + 1), "&raquo;"⟩] else []

/-- The links on a page of the history: to the page before, to each page from the first to the last,
and to the page after. -/
def historyLinks (channel page last : Int) : List PageLink :=
  previousLink channel page
    ++ (List.range last.toNat).map (fun (n : Nat) => numberedLink channel page (1 + n))
    ++ nextLink channel page last

/-- What leads to a page of the history ends at its quote. -/
theorem not_mem_historyTarget {c : Char} (hdigit : c.isDigit = false) (hminus : c ≠ '-')
    (hroot : c ∉ "/history/".toList) (hquery : c ∉ "?page=".toList) (channel page : Int) :
    c ∉ (historyTarget channel page).toList := by
  unfold historyTarget
  simp only [String.toList_append, List.mem_append, not_or]
  exact ⟨⟨⟨hroot, not_mem_ofInt hdigit hminus _⟩, hquery⟩, not_mem_ofInt hdigit hminus _⟩

/-- Links to different pages of a history lead to different places. -/
theorem historyTarget_injective {channel page page' : Int}
    (h : historyTarget channel page = historyTarget channel page') : page = page' :=
  Numeral.ofInt_injective ((String.append_right_inj _).1 h)

/-- A link to a page of the history is plain if what it shows is. -/
theorem plain_historyTarget {active : Bool} {label : String} (hlabel : '<' ∉ label.toList)
    (channel page : Int) : PageLink.Plain ⟨active, historyTarget channel page, label⟩ where
  target := ⟨not_mem_historyTarget rfl (by decide) (by decide) (by decide) channel page,
    not_mem_historyTarget rfl (by decide) (by decide) (by decide) channel page⟩
  label := hlabel

section

variable {scope : Scope}

/-- The characters of where a link leads. -/
theorem toList_historyTarget (channel page : Int) : (historyTarget channel page).toList
    = "/history/".toList ++ ((Numeral.ofInt channel).toList ++ ("?page=".toList
      ++ (Numeral.ofInt page).toList)) := by
  unfold historyTarget
  simp only [String.toList_append, List.append_assoc]

/-- The link to a neighbour is made by its part of the template. -/
theorem yields_neighbour {line : Nat} {e : Expr} {other : Int} {label closing : String}
    (hchannel : scope.lookup "channel_id" = some (.int channel))
    (he : e.eval scope = .ok (.int other)) (hlabel : '<' ∉ label.toList)
    (hclosing : closing.toList = labelOpening ++ (label.toList ++ (itemClosing ++ lineBreak))) :
    Yields file scope
      (.text (lines ["", r#"    <li class="page-item"><a class="page-link" href="/history/"#])
        (.print line (.name "channel_id") (.text "?page=" (.print line e (.text closing .done)))))
      [⟨false, historyTarget channel other, label⟩] := by
  have hopening :
      (lines ["", r#"    <li class="page-item"><a class="page-link" href="/history/"#]).toList
        = lineBreak ++ (itemOpening ++ (targetOpening ++ "/history/".toList)) := by decide +kernel
  have hchannel' : (Expr.name "channel_id").eval scope = .ok (.int channel) := by
    rw [Expr.eval, hchannel]
    rfl
  have hfill : (Template.text
      (lines ["", r#"    <li class="page-item"><a class="page-link" href="/history/"#])
        (.print line (.name "channel_id") (.text "?page=" (.print line e
          (.text closing .done))))).fill file scope
      = .ok [.own (lines ["", r#"    <li class="page-item"><a class="page-link" href="/history/"#]),
          .own (Numeral.ofInt channel), .own "?page=", .own (Numeral.ofInt other),
          .own closing] := by
    simp only [Template.fill, hchannel', he]
    rfl
  refine .link hfill ?_ (plain_historyTarget hlabel channel other)
  unfold PageLink.markup PageLink.inside
  rw [toList_historyTarget]
  simp only [chars, Piece.markup, List.flatMap_cons, List.flatMap_nil, hopening, hclosing,
    List.append_assoc, List.append_nil, Bool.false_eq_true, if_false, List.nil_append]

/-- The part of the template that makes the numbered links. -/
def numberedContent : Template :=
  .text (lines ["", r#"    <li class="page-item"#]) <|
  .cond 21 (.equal (.name "p") (.name "page")) (.text " active" .done) .done <|
  .text r#""><a class="page-link" href="/history/"# <|
  .print 21 (.name "channel_id") <|
  .text "?page=" <|
  .print 21 (.name "p") <|
  .text r#"">"# <|
  .print 21 (.name "p") <|
  .text (lines ["</a></li>", "    "]) <|
  .done

/-- A numbered link is made by its part of the template. -/
theorem yields_numbered {number : Int}
    (hchannel : scope.lookup "channel_id" = some (.int channel))
    (hpage : scope.lookup "page" = some (.int page)) :
    Yields file (("p", .int number) :: scope) numberedContent
      [numberedLink channel page number] := by
  have hopening : (lines ["", r#"    <li class="page-item"#]).toList
      = lineBreak ++ itemOpening := by decide +kernel
  have htarget : (r#""><a class="page-link" href="/history/"#).toList
      = targetOpening ++ "/history/".toList := by decide +kernel
  have hlabel : (r#"">"#).toList = labelOpening := by decide +kernel
  have hclosing : (lines ["</a></li>", "    "]).toList = itemClosing ++ lineBreak := by
    decide +kernel
  have hnumber : (Expr.name "p").eval (("p", .int number) :: scope) = .ok (.int number) := rfl
  have hchannel' : (Expr.name "channel_id").eval (("p", .int number) :: scope)
      = .ok (.int channel) := by
    have hlookup : (("p", .int number) :: scope).lookup "channel_id" = some (.int channel) :=
      hchannel
    rw [Expr.eval, hlookup]
    rfl
  have hactive : (Expr.equal (.name "p") (.name "page")).eval (("p", .int number) :: scope)
      = .ok (.bool (number == page)) := by
    have hlookup : (("p", .int number) :: scope).lookup "page" = some (.int page) := hpage
    rw [Expr.eval, hnumber, Expr.eval, hlookup]
    rfl
  have hfill : numberedContent.fill file (("p", .int number) :: scope)
      = .ok (.own (lines ["", r#"    <li class="page-item"#])
        :: (if number == page then [.own " active"] else [])
        ++ [.own (r#""><a class="page-link" href="/history/"#), .own (Numeral.ofInt channel),
          .own "?page=", .own (Numeral.ofInt number), .own r#"">"#, .own (Numeral.ofInt number),
          .own (lines ["</a></li>", "    "])]) := by
    unfold numberedContent
    simp only [Template.fill, hnumber, hchannel', hactive]
    cases number == page <;> rfl
  have hplain : (numberedLink channel page number).Plain :=
    plain_historyTarget (not_mem_ofInt rfl (by decide) number) channel number
  have hmark : chars (if number == page then [.own " active"] else [])
      = if number == page then activeMark else [] := by
    cases number == page with
    | true => exact List.append_nil _
    | false => rfl
  refine .link hfill ?_ hplain
  unfold numberedLink PageLink.markup PageLink.inside
  rw [toList_historyTarget, List.cons_append, chars_own, chars_append, hmark, chars_own, chars_own,
    chars_own, chars_own, chars_own, chars_own, chars_own, hopening, htarget, hlabel, hclosing]
  generalize (if number == page then activeMark else []) = mark
  simp only [chars, List.flatMap_nil, List.append_assoc, List.append_nil]

end

/-- The links of one round of the loop over the page numbers. -/
def roundLinks (channel page : Int) : Value → List PageLink
  | .int number => [numberedLink channel page number]
  | _ => []

/-- The content of the history holds the links of the page. -/
theorem yields_history {ms : List AuthoredMessage} (pos : 1 ≤ last) (le : last ≤ rangeLimit) :
    Yields file (Messages.historyScope user channels channel page last ms) historyContent
      (historyLinks channel page last) := by
  have hmessages : (Value.list ((chronological ms).map .ofMessage)).elements?
      = some ((chronological ms).map .ofMessage) := rfl
  have hrange := eval_range pos le
  have hlinks : historyLinks channel page last
      = ((chronological ms).map Value.ofMessage).flatMap (fun _ => [])
        ++ (previousLink channel page
          ++ (((List.range last.toNat).map fun (n : Nat) => Value.int (1 + n)).flatMap
              (roundLinks channel page)
            ++ (nextLink channel page last ++ []))) := by
    unfold historyLinks
    rw [List.flatMap_eq_nil_iff.2 fun _ _ => rfl, List.flatMap_map, List.map_eq_flatMap,
      List.append_nil, List.append_assoc]
    rfl
  rw [hlinks]
  unfold historyContent
  refine .lines (by decide +kernel) (.each rfl hmessages ?_ (.lines (by decide +kernel)
    (.cond rfl ?_ (.lines (by decide +kernel) (.each hrange rfl ?_ (.lines (by decide +kernel)
      (.cond rfl ?_ (.lines (by decide +kernel) .done))))))))
  · intro w hw
    obtain ⟨m, -, rfl⟩ := List.mem_map.1 hw
    exact .lines (by decide +kernel) (.print rfl (showsPlain_text _) (.lines (by decide +kernel)
      (.print rfl (showsPlain_text _) (.word (by decide +kernel) (.print rfl (showsPlain_text _)
        (.word (by decide +kernel) (.print rfl (showsPlain_text _) (.lines (by decide +kernel)
          (.print rfl (showsPlain_text _) (.lines (by decide +kernel)
            (.print rfl (showsPlain_text _) (.lines (by decide +kernel) .done))))))))))))
  · show Yields file _ (if decide (1 < page) then _ else _) (previousLink channel page)
    unfold previousLink
    by_cases hprevious : 1 < page
    · rw [if_pos (decide_eq_true hprevious), if_pos hprevious]
      exact yields_neighbour rfl rfl (by decide) (by decide +kernel)
    · rw [if_neg (by simpa using hprevious), if_neg hprevious]
      exact .done
  · intro w hw
    obtain ⟨n, -, rfl⟩ := List.mem_map.1 hw
    exact yields_numbered rfl rfl
  · show Yields file _ (if decide (page < last) then _ else _) (nextLink channel page last)
    unfold nextLink
    by_cases hnext : page < last
    · rw [if_pos (decide_eq_true hnext), if_pos hnext]
      exact yields_neighbour rfl rfl (by decide) (by decide +kernel)
    · rw [if_neg (by simpa using hnext), if_neg hnext]
      exact .done

/-- The links on a page of the history are those to its neighbours and to all pages. -/
theorem links_history {html : String} {ms : List AuthoredMessage} (pos : 1 ≤ last)
    (le : last ≤ rangeLimit)
    (h : render "history.html" (Messages.historyScope user channels channel page last ms)
      = .ok html) : linksIn html.toList = historyLinks channel page last := by
  have hcontent : Yields "history.html" (Messages.historyScope user channels channel page last ms)
      historyContent (historyLinks channel page last) := yields_history pos le
  obtain ⟨ps, hps, hlinks⟩ := yields_frame hcontent
  have hpieces : pieces "history.html" (Messages.historyScope user channels channel page last ms)
      = .ok ps := hps
  unfold render at h
  rw [hpieces] at h
  cases h
  rw [Piece.toList_join]
  exact hlinks.linksIn_eq

end ChatBoard.Page

import ChatBoard.Proofs.Board.Avatars
import ChatBoard.Proofs.Board.Calls

/-!
# Profiles changed at the same time

Two accounts change their profiles, each with a request that makes its calls of the store in turn
and ends at the first that fails. `Shared` is the store with the calls that each side still has to
make, and a schedule says whose turn it is. The invariant of the turns (`Underway`) is that the
store has made the progress of the calls made so far, that a side with room for its picture has made
the first of its calls, and that a side without room has made none. So when both sides are through,
the store does not depend on the schedule but for the ids of new images (`Underway.alike`). Two
requests one after the other are a schedule too, in either order, and so all of them end alike
(`profiles_commute`).

There must be room for both pictures or for neither. When the images have one id left, it goes to
whose turn comes first, and the other request fails (`profiles_last_id`).
-/

namespace ChatBoard

open ProfileCall (makeAll pictures)

/-! ## Turns -/

/-- A store that two accounts share, and the calls that each of them still has to make. -/
structure Shared where
  store : Store
  waiting : Side → List ProfileCall

namespace Shared

/-- Makes the next call of a side. A side whose call fails makes no more. -/
def turn (who : Side → Int) (j : Shared) (side : Side) : Shared :=
  match j.waiting side with
  | [] => j
  | call :: rest =>
    match call.run (who side) j.store with
    | (.ok _, s) => ⟨s, Function.update j.waiting side rest⟩
    | (.error _, s) => ⟨s, Function.update j.waiting side []⟩

/-- Takes turns. -/
def run (who : Side → Int) (schedule : List Side) (j : Shared) : Shared :=
  schedule.foldl (turn who) j

/-- Both sides have made their calls. -/
def Done (j : Shared) : Prop := ∀ side, j.waiting side = []

/-- Two uploads before the first turn. -/
def start (u : Side → Upload) (s : Store) : Shared := ⟨s, fun side => (u side).calls⟩

variable {who : Side → Int} {j : Shared} {side : Side}

/-- A turn of a side without calls does nothing. -/
theorem turn_of_nil (h : j.waiting side = []) : j.turn who side = j := by
  unfold turn
  rw [h]

/-- After a turn its own side has fewer calls to make, if it had any, and the other side has no
more. -/
theorem length_turn (who : Side → Int) (j : Shared) (side other : Side) :
    ((j.turn who side).waiting other).length
      ≤ (j.waiting other).length - if other = side then 1 else 0 := by
  by_cases hside : other = side
  · subst hside
    rw [if_pos rfl]
    unfold turn
    split
    next hnil => rw [hnil]; exact Nat.zero_le _
    next call rest hcons =>
      rw [hcons]
      split
      · simp
      · simp
  · rw [if_neg hside]
    unfold turn
    split
    · exact Nat.le_refl _
    · split
      · simp [Function.update_of_ne hside]
      · simp [Function.update_of_ne hside]

/-- A schedule takes off each side at least as many calls as the side has turns. -/
theorem length_run (who : Side → Int) (schedule : List Side) (j : Shared) (side : Side) :
    ((j.run who schedule).waiting side).length
      ≤ (j.waiting side).length - schedule.count side := by
  induction schedule generalizing j with
  | nil => exact Nat.le_refl _
  | cons next rest ih =>
    have hturn := length_turn who j next side
    have hrest := ih (j.turn who next)
    show (((j.turn who next).run who rest).waiting side).length ≤ _
    rw [List.count_cons]
    by_cases hside : side = next
    · subst hside
      rw [if_pos rfl] at hturn
      rw [if_pos (beq_self_eq_true side)]
      omega
    · rw [if_neg hside] at hturn
      rw [if_neg (by simpa using Ne.symm hside)]
      omega

/-- Two turns are enough for an upload. -/
theorem done_start (who : Side → Int) (u : Side → Upload) (s : Store) {schedule : List Side}
    (h : ∀ side, 2 ≤ schedule.count side) : ((start u s).run who schedule).Done := by
  intro side
  have hlength := length_run who schedule (start u s) side
  have hcalls : ((start u s).waiting side).length ≤ 2 := (u side).length_calls
  have := h side
  exact List.length_eq_zero_iff.1 (by omega)

/-- A side that has enough turns in a row makes all its calls. -/
theorem run_replicate (who : Side → Int) (side : Side) {turns : Nat} (j : Shared)
    (h : (j.waiting side).length ≤ turns) :
    j.run who (List.replicate turns side)
      = ⟨(makeAll (who side) (j.waiting side) j.store).2, Function.update j.waiting side []⟩ := by
  induction turns generalizing j with
  | zero =>
    have hnil : j.waiting side = [] := List.length_eq_zero_iff.1 (Nat.le_zero.1 h)
    have hsame : Function.update j.waiting side [] = j.waiting := by
      rw [← hnil, Function.update_eq_self]
    rw [hnil, hsame]
    rfl
  | succ turns ih =>
    show (j.turn who side).run who (List.replicate turns side) = _
    have hless : ((j.turn who side).waiting side).length ≤ turns := by
      have := length_turn who j side side
      rw [if_pos rfl] at this
      omega
    rw [ih _ hless]
    cases hwaiting : j.waiting side with
    | nil => rw [turn_of_nil hwaiting, hwaiting]
    | cons call rest =>
      unfold turn
      rw [hwaiting, makeAll]
      dsimp only
      cases call.run (who side) j.store with
      | mk outcome s => cases outcome <;> simp [makeAll]

end Shared

/-! ## The invariant of the turns -/

/-- Two accounts whose uploads do not get in each other's way. -/
structure Independent (who : Side → Int) (u : Side → Upload) (s : Store) : Prop where
  /-- The accounts are different. -/
  distinct : who .first ≠ who .second
  /-- The table of the accounts is there. -/
  users : ∃ t, s.users = some t
  /-- Pictures of the same name have the same data. -/
  pictures : ∀ side other p q, (u side).picture? = some p → (u other).picture? = some q →
    p.1 = q.1 → p = q
  /-- If both bring pictures, there is not just one id left. -/
  room : (∀ side, ∃ p, (u side).picture? = some p) → ∀ t, s.images = some t →
    t.counter + 1 ≠ largestId

/-- Where two uploads are, between turns. -/
structure Underway (who : Side → Int) (u : Side → Upload) (s : Store)
    (done : Side → List ProfileCall) (j : Shared) : Prop where
  /-- The store has made the progress of the calls made so far. -/
  progress : Progress who done s j.store
  /-- A side with room for its picture has made the first of its calls, and the others wait. -/
  roomy : ∀ side, (u side).HasRoom s → done side ++ j.waiting side = (u side).calls
  /-- A side without room has made none. -/
  stuck : ∀ side, ¬ (u side).HasRoom s → done side = []
    ∧ (j.waiting side = (u side).calls ∨ j.waiting side = [])

namespace Underway

variable {who : Side → Int} {u : Side → Upload} {s : Store} {done done' : Side → List ProfileCall}
  {j j' : Shared} {side : Side}

/-- Before the first turn no call has been made. -/
theorem start (h : Independent who u s) : Underway who u s (fun _ => []) (.start u s) where
  progress := .refl h.users.choose_spec
  roomy _ _ := rfl
  stuck _ _ := ⟨rfl, .inl rfl⟩

/-- Calls that have been made or wait are those of the uploads. -/
theorem mem_calls (h : Underway who u s done j) {call : ProfileCall}
    (hcall : call ∈ done side ∨ call ∈ j.waiting side) : call ∈ (u side).calls := by
  by_cases hroom : (u side).HasRoom s
  · rw [← h.roomy side hroom]
    exact List.mem_append.2 hcall
  · obtain ⟨hnil, hwaiting⟩ := h.stuck side hroom
    rw [hnil] at hcall
    rcases hcall with hcall | hcall
    · cases hcall
    · rcases hwaiting with hwaiting | hwaiting
      · rwa [hwaiting] at hcall
      · rw [hwaiting] at hcall
        cases hcall

/-- Pictures that have been brought or wait are those of the uploads. -/
theorem picture_of_mem (h : Underway who u s done j) {p : Image}
    (hp : p ∈ pictures (done side) ∨ p ∈ pictures (j.waiting side)) :
    (u side).picture? = some (p.name, p.data) := by
  have hmem : p ∈ pictures (u side).calls := by
    unfold ProfileCall.pictures at hp ⊢
    rw [List.mem_filterMap, List.mem_filterMap] at hp
    rw [List.mem_filterMap]
    rcases hp with ⟨call, hcall, hpicture⟩ | ⟨call, hcall, hpicture⟩
    · exact ⟨call, h.mem_calls (.inl hcall), hpicture⟩
    · exact ⟨call, h.mem_calls (.inr hcall), hpicture⟩
  rw [Upload.pictures_calls, Option.mem_toList, Option.map_eq_some_iff] at hmem
  obtain ⟨picture, hpicture, rfl⟩ := hmem
  exact hpicture

/-- A side brings one picture at most. -/
theorem length_pictures (h : Underway who u s done j) (side : Side) :
    (pictures (done side)).length + (pictures (j.waiting side)).length
      ≤ (u side).picture?.toList.length := by
  rw [← Upload.length_pictures]
  by_cases hroom : (u side).HasRoom s
  · rw [← h.roomy side hroom, ProfileCall.pictures, ProfileCall.pictures, ProfileCall.pictures,
      List.filterMap_append, List.length_append]
  · obtain ⟨hnil, hwaiting⟩ := h.stuck side hroom
    rw [hnil]
    rcases hwaiting with hwaiting | hwaiting
    · rw [hwaiting]
      exact Nat.le_of_eq (Nat.zero_add _)
    · rw [hwaiting]
      exact Nat.zero_le _

/-- A side with room for its picture finds an id for it. -/
theorem room_left (h : Underway who u s done j) (hu : Independent who u s)
    (hroom : (u side).HasRoom s) {p : Image} (hp : p ∈ pictures (j.waiting side)) :
    ∃ t, j.store.images = some t ∧ t.counter < largestId := by
  obtain ⟨t, ht, hlt⟩ := hroom _ (h.picture_of_mem (.inr hp))
  obtain ⟨t', ht', hcollected⟩ := h.progress.images t ht
  refine ⟨t', ht', ?_⟩
  rw [hcollected.counter, ProfileCall.timesBrought]
  -- The side itself has brought nothing yet, and the other side one picture at most.
  have hown : 1 ≤ (pictures (j.waiting side)).length := List.length_pos_of_mem hp
  have hmost : ∀ other, (u other).picture?.toList.length ≤ 1 := fun other => by
    cases (u other).picture? <;> simp
  have hcount := h.length_pictures
  by_cases hboth : ∀ other, ∃ p, (u other).picture? = some p
  · have hids := hu.room hboth t ht
    have hfirst := (hcount .first).trans (hmost .first)
    have hsecond := (hcount .second).trans (hmost .second)
    cases side <;> omega
  · obtain ⟨other, hother⟩ := not_forall.1 hboth
    have hnone : (u other).picture?.toList.length = 0 := by
      rw [Option.eq_none_iff_forall_not_mem.2 fun p hp => hother ⟨p, hp⟩]
      rfl
    have hfirst := hcount .first
    have hsecond := hcount .second
    have := hmost .first
    have := hmost .second
    cases side <;> cases other <;> omega

/-- Where an id is left there was room. -/
theorem hasRoom_of_lt (h : Underway who u s done j) {t : Table (Stored Image)}
    (ht : j.store.images = some t) (hlt : t.counter < largestId) (side : Side) :
    (u side).HasRoom s := by
  intro picture _
  cases himages : s.images with
  | none =>
    rw [h.progress.missing himages] at ht
    cases ht
  | some t₀ =>
    obtain ⟨t', ht', hcollected⟩ := h.progress.images t₀ himages
    obtain rfl := Option.some.inj (ht'.symm.trans ht)
    have := hcollected.counter
    exact ⟨t₀, rfl, by omega⟩

/-- The first call of a side without room brings its picture. -/
theorem picture_of_stuck (h : Underway who u s done j) (hnot : ¬ (u side).HasRoom s)
    {call : ProfileCall} {rest : List ProfileCall} (hwaiting : j.waiting side = call :: rest) :
    ∃ p, call.picture? = some p := by
  have hpicture : ∃ picture, (u side).picture? = some picture := by
    by_contra hnone
    exact hnot fun picture hpicture => absurd ⟨picture, hpicture⟩ hnone
  obtain ⟨picture, hpicture⟩ := hpicture
  obtain ⟨rest', hcalls⟩ := Upload.calls_of_some hpicture
  rcases (h.stuck side hnot).2 with hall | hnil
  · rw [hwaiting, hcalls] at hall
    obtain ⟨rfl, -⟩ := List.cons.inj hall
    exact ⟨_, rfl⟩
  · rw [hwaiting] at hnil
    cases hnil

/-- A call that is made keeps the invariant. -/
theorem made (h : Underway who u s done j) (hu : Independent who u s) {call : ProfileCall}
    {rest : List ProfileCall} (hwaiting : j.waiting side = call :: rest) {s' : Store}
    (hran : call.Ran (who side) j.store s') :
    Underway who u s (Function.update done side (done side ++ [call]))
      ⟨s', Function.update j.waiting side rest⟩ where
  progress := by
    refine h.progress.call hu.distinct hran fun q hq p hp hname => ?_
    have hq : q ∈ pictures (j.waiting side) := by
      rw [hwaiting]
      exact ProfileCall.mem_pictures_cons hq rest
    obtain ⟨other, hp⟩ := hp
    have heq := hu.pictures other side _ _ (h.picture_of_mem (.inl hp)) (h.picture_of_mem (.inr hq))
      hname
    obtain ⟨name, data⟩ := p
    obtain ⟨name', data'⟩ := q
    cases heq
    rfl
  roomy other hroom := by
    dsimp only
    have hcalls := h.roomy other hroom
    by_cases hside : other = side
    · subst hside
      rw [hwaiting] at hcalls
      rw [Function.update_self, Function.update_self, List.append_assoc]
      exact hcalls
    · rw [Function.update_of_ne hside, Function.update_of_ne hside]
      exact hcalls
  stuck other hnot := by
    dsimp only
    by_cases hside : other = side
    · -- The picture has found an id, so there was room.
      subst hside
      obtain ⟨p, hpicture⟩ := h.picture_of_stuck hnot hwaiting
      obtain ⟨t, t', ht, hstock, -⟩ := hran.stocked p hpicture
      have hlt : t.counter < largestId := by
        rcases hstock with happ | ⟨room, -, -⟩
        · exact happ.room
        · exact room
      exact absurd (h.hasRoom_of_lt ht hlt other) hnot
    · rw [Function.update_of_ne hside, Function.update_of_ne hside]
      exact h.stuck other hnot

/-- A call that fails keeps the invariant: its side had no room. -/
theorem failed (h : Underway who u s done j) (hu : Independent who u s) {call : ProfileCall}
    {rest : List ProfileCall} (hwaiting : j.waiting side = call :: rest) {p : Image}
    (hpicture : call.picture? = some p)
    (hfull : ∀ t, j.store.images = some t → largestId ≤ t.counter) :
    Underway who u s done ⟨j.store, Function.update j.waiting side []⟩ where
  progress := h.progress
  roomy other hroom := by
    dsimp only
    by_cases hside : other = side
    · subst hside
      have hp : p ∈ pictures (j.waiting other) := by
        rw [hwaiting]
        exact ProfileCall.mem_pictures_cons hpicture rest
      obtain ⟨t, ht, hlt⟩ := h.room_left hu hroom hp
      exact absurd (hfull t ht) (Nat.not_le.2 hlt)
    · rw [Function.update_of_ne hside]
      exact h.roomy other hroom
  stuck other hnot := by
    dsimp only
    by_cases hside : other = side
    · subst hside
      rw [Function.update_self]
      exact ⟨(h.stuck other hnot).1, .inr rfl⟩
    · rw [Function.update_of_ne hside]
      exact h.stuck other hnot

/-- A turn keeps the invariant. -/
theorem turn (h : Underway who u s done j) (hu : Independent who u s) (side : Side) :
    ∃ done', Underway who u s done' (j.turn who side) := by
  cases hwaiting : j.waiting side with
  | nil =>
    rw [Shared.turn_of_nil hwaiting]
    exact ⟨done, h⟩
  | cons call rest =>
    obtain ⟨-, t, -, ht, -⟩ := h.progress.users
    rcases call.run_cases ht (who side) with ⟨s', hrun, hran⟩ | ⟨fault, p, hrun, hpicture, hfull⟩
    · have hturn : j.turn who side = ⟨s', Function.update j.waiting side rest⟩ := by
        simp only [Shared.turn, hwaiting, hrun]
      rw [hturn]
      exact ⟨_, h.made hu hwaiting hran⟩
    · have hturn : j.turn who side = ⟨j.store, Function.update j.waiting side []⟩ := by
        simp only [Shared.turn, hwaiting, hrun]
      rw [hturn]
      exact ⟨done, h.failed hu hwaiting hpicture hfull⟩

/-- Turns keep the invariant. -/
theorem run (h : Underway who u s done j) (hu : Independent who u s) (schedule : List Side) :
    ∃ done', Underway who u s done' (j.run who schedule) := by
  induction schedule generalizing j done with
  | nil => exact ⟨done, h⟩
  | cons side rest ih =>
    obtain ⟨done', h'⟩ := h.turn hu side
    exact ih h'

/-- When both sides are through, the calls that have been made are those that there was room for. -/
theorem done_unique (h : Underway who u s done j) (h' : Underway who u s done' j') (hj : j.Done)
    (hj' : j'.Done) : done = done' := by
  funext side
  by_cases hroom : (u side).HasRoom s
  · have hcalls := h.roomy side hroom
    have hcalls' := h'.roomy side hroom
    rw [hj side, List.append_nil] at hcalls
    rw [hj' side, List.append_nil] at hcalls'
    exact hcalls.trans hcalls'.symm
  · rw [(h.stuck side hroom).1, (h'.stuck side hroom).1]

/-- When both sides are through, it does not matter whose turn it was when. -/
theorem alike (h : Underway who u s done j) (h' : Underway who u s done' j') (hj : j.Done)
    (hj' : j'.Done) : j.store.SameProfiles j'.store := by
  obtain rfl := h.done_unique h' hj hj'
  exact h.progress.alike h'.progress

end Underway

/-! ## Requests -/

/-- One thing for each side. -/
def Side.pick {α : Type} (x y : α) : Side → α
  | first => x
  | second => y

/-- A request of an account to change its profile, with an upload that can be taken in. -/
structure Request.Changes (e : Setting) (s : Store) (user : Entry User) (u : Upload) (r : Request) :
    Prop where
  account : r.IsFrom e s user
  post : r.method = .post
  path : r.path = Octets.ofText "/profile"
  upload : r.upload? = some u

section

variable {e e' : Setting} {s : Store} {a b : Entry User} {u u' : Upload} {r r' : Request}

/-- A request to change a profile carries out its upload. -/
theorem Request.Changes.store_eq (h : r.Changes e s a u) :
    (serve e r s).2 = (u.apply a.id s).2 := by
  rw [(Request.Asks.updateProfile h.path h.post).serve_account h.account, r.sent_of_post h.post]
  rw [Profile.update_of_some h.upload]
  cases u.apply a.id s with
  | mk outcome s' => cases outcome <;> rfl

/-- The upload in a request is the same whoever sends it. -/
theorem Request.upload?_cookieLines (r : Request) (lines : List Octets) :
    { r with cookieLines := lines }.upload? = r.upload? := rfl

/-- A change of a profile does not keep another account from changing its own. -/
theorem Request.Changes.after (h : r.Changes e s a u) (h' : r'.Changes e' s b u')
    (hne : a.id ≠ b.id) : r'.Changes e' (serve e r s).2 b u' := by
  obtain ⟨hid, hrow⟩ := Visitor.ofCookies_eq_account_iff.1 h'.account
  refine { h' with account := Visitor.ofCookies_eq_account_iff.2 ⟨hid, ?_⟩ }
  rcases serve_profile h.account h.path h.post with ⟨_, -, -, happlied⟩ | ⟨-, hstore⟩
  · obtain ⟨t, t', ht, ht', -, hentries⟩ := happlied.users
    rw [ht, rowsOf_some] at hrow
    rw [ht', rowsOf_some, hentries]
    exact List.mem_map.2 ⟨_, hrow, if_neg fun heq => hne heq.symm⟩
  · rw [hstore]
    exact hrow

/-- The picture of a request to change a profile. -/
theorem Request.Changes.brings (h : r.Changes e s a u) {p : String × Octets}
    (hp : u.picture? = some p) :
    ∃ extension, r.Brings extension p.2 ∧ p.1 = Avatar.imageName p.2 extension :=
  Request.brings_of_picture h.post h.path h.upload hp

/-- What two accounts have come to when they change their profiles in turns. -/
def Shared.afterTurns (a b : Entry User) (u u' : Upload) (s : Store) (schedule : List Side) :
    Shared := (start (Side.pick u u') s).run (Side.pick a.id b.id) schedule

/-- Where two requests change profiles: which of the two accounts has its turn when does not
matter. -/
structure Commuting (e e' : Setting) (s : Store) (a b : Entry User) (u u' : Upload)
    (r r' : Request) : Prop where
  /-- One after the other, the requests end alike in either order. -/
  serial : (serve e' r' (serve e r s).2).2.SameProfiles (serve e r (serve e' r' s).2).2
  /-- So does every schedule of their calls that lets both sides finish. -/
  interleaved : ∀ schedule, (Shared.afterTurns a b u u' s schedule).Done →
    (serve e' r' (serve e r s).2).2.SameProfiles (Shared.afterTurns a b u u' s schedule).store
  /-- Two turns are enough for a side. -/
  ends : ∀ schedule : List Side, (∀ side, 2 ≤ schedule.count side) →
    (Shared.afterTurns a b u u' s schedule).Done
  /-- The requests one after the other are the schedules that let one side finish first. -/
  ordered :
    (Shared.afterTurns a b u u' s [.first, .first, .second, .second]).store
        = (serve e' r' (serve e r s).2).2
      ∧ (Shared.afterTurns a b u u' s [.second, .second, .first, .first]).store
        = (serve e r (serve e' r' s).2).2

/-- When one side finishes before the other begins, the uploads are carried out one after the
other. -/
theorem Shared.store_run_serial (who : Side → Int) (u : Side → Upload) (s : Store)
    {side other : Side} (hne : other ≠ side) :
    ((start u s).run who (List.replicate 2 side ++ List.replicate 2 other)).store
      = ((u other).apply (who other) ((u side).apply (who side) s).2).2 := by
  have hsplit : (start u s).run who (List.replicate 2 side ++ List.replicate 2 other)
      = ((start u s).run who (List.replicate 2 side)).run who (List.replicate 2 other) :=
    List.foldl_append ..
  have hfirst := run_replicate who side (start u s) (u side).length_calls
  have hwaiting :
      ((start u s).run who (List.replicate 2 side)).waiting other = (u other).calls := by
    rw [hfirst]
    exact Function.update_of_ne hne ..
  have hsecond := run_replicate who other ((start u s).run who (List.replicate 2 side))
    (hwaiting ▸ (u other).length_calls)
  rw [hsplit, hsecond, hwaiting, hfirst, Upload.apply_eq_makeAll, Upload.apply_eq_makeAll]
  rfl

/-- Different pictures of two requests have different digests. -/
def Request.DigestsApart (r r' : Request) : Prop :=
  ∀ extension extension' data data', r.Brings extension data → r'.Brings extension' data' →
    Digest.Sha1.digest data = Digest.Sha1.digest data' → data = data'

/-- If two requests bring pictures, the images do not have just one id left for them. -/
def Request.RoomForBoth (r r' : Request) (s : Store) : Prop :=
  (∃ extension data, r.Brings extension data) → (∃ extension data, r'.Brings extension data) →
    ∀ t, s.images = some t → t.counter + 1 ≠ largestId

/-- Requests of two accounts do not get in each other's way. -/
theorem Request.Changes.independent (h : r.Changes e s a u) (h' : r'.Changes e' s b u')
    (hne : a.id ≠ b.id) (hdigest : r.DigestsApart r') (hroom : r.RoomForBoth r' s) :
    Independent (Side.pick a.id b.id) (Side.pick u u') s := by
  obtain ⟨-, hrow⟩ := Visitor.ofCookies_eq_account_iff.1 h.account
  obtain ⟨users, husers, -⟩ := exists_of_mem_rowsOf hrow
  have hsame : ∀ p q, u.picture? = some p → u'.picture? = some q → p.1 = q.1 → p = q := by
    intro p q hp hq hname
    obtain ⟨extension, hbrings, hp'⟩ := h.brings hp
    obtain ⟨extension', hbrings', hq'⟩ := h'.brings hq
    have hdata := hdigest _ _ _ _ hbrings hbrings'
      (Avatar.imageName_inj (hp'.symm.trans (hname.trans hq'))).1
    exact Prod.ext hname hdata
  refine ⟨hne, ⟨users, husers⟩, ?_, ?_⟩
  · intro side other p q hp hq hname
    cases side with
    | first =>
      cases other with
      | first => exact Option.some.inj (hp.symm.trans hq)
      | second => exact hsame p q hp hq hname
    | second =>
      cases other with
      | first => exact (hsame q p hq hp hname.symm).symm
      | second => exact Option.some.inj (hp.symm.trans hq)
  · intro hboth t ht
    obtain ⟨p, hp⟩ := hboth .first
    obtain ⟨q, hq⟩ := hboth .second
    obtain ⟨extension, hbrings, -⟩ := h.brings hp
    obtain ⟨extension', hbrings', -⟩ := h'.brings hq
    exact hroom ⟨extension, _, hbrings⟩ ⟨extension', _, hbrings'⟩ t ht

/-- Requests of two accounts one after the other are carried out in the turns of a schedule. -/
theorem Request.Changes.ordered (h : r.Changes e s a u) (h' : r'.Changes e' s b u')
    (hne : a.id ≠ b.id) :
    (Shared.afterTurns a b u u' s [.first, .first, .second, .second]).store
        = (serve e' r' (serve e r s).2).2
      ∧ (Shared.afterTurns a b u u' s [.second, .second, .first, .first]).store
        = (serve e r (serve e' r' s).2).2 := by
  rw [(h.after h' hne).store_eq, h.store_eq, (h'.after h hne.symm).store_eq, h'.store_eq]
  exact ⟨Shared.store_run_serial _ _ s (by decide), Shared.store_run_serial _ _ s (by decide)⟩

/-- Changes of the profiles of two accounts commute, also when their calls are interleaved: whatever
the order, the accounts are the same in the end and the same images are there. -/
theorem profiles_commute (h : r.Changes e s a u) (h' : r'.Changes e' s b u') (hne : a.id ≠ b.id)
    (hdigest : r.DigestsApart r') (hroom : r.RoomForBoth r' s) :
    Commuting e e' s a b u u' r r' := by
  have hu := h.independent h' hne hdigest hroom
  have hordered := h.ordered h' hne
  have hends : ∀ schedule : List Side, (∀ side, 2 ≤ schedule.count side) →
      (Shared.afterTurns a b u u' s schedule).Done := fun _ => Shared.done_start _ _ _
  -- All schedules keep one invariant, and so they end alike.
  have halike : ∀ schedule schedule', (Shared.afterTurns a b u u' s schedule).Done →
      (Shared.afterTurns a b u u' s schedule').Done →
        (Shared.afterTurns a b u u' s schedule).store.SameProfiles
          (Shared.afterTurns a b u u' s schedule').store := by
    intro schedule schedule' hdone hdone'
    obtain ⟨_, hrun⟩ := (Underway.start hu).run hu schedule
    obtain ⟨_, hrun'⟩ := (Underway.start hu).run hu schedule'
    exact hrun.alike hrun' hdone hdone'
  have hfirst := hends [.first, .first, .second, .second] fun side => by cases side <;> decide
  have hsecond := hends [.second, .second, .first, .first] fun side => by cases side <;> decide
  refine ⟨?_, fun schedule hdone => ?_, hends, hordered⟩
  · rw [← hordered.1, ← hordered.2]
    exact halike _ _ hfirst hsecond
  · rw [← hordered.1]
    exact halike _ _ hfirst hdone

end

/-! ## Two accounts with one picture -/

namespace Sample

/-- Another account. -/
def bob : Entry User := ⟨2, { alice.row with name := "bob", displayName := "bob" }⟩

/-- The cookie line of a client with a session of the other account. -/
def bobsCookies : Octets := Octets.ofText "session=" ++ Token.issue setting.secret ⟨2, 2000⟩

/-- Gives the other account the same picture. -/
def dressesBob : Request := { dresses.request with cookieLines := [bobsCookies] }

/-- What both requests ask for. -/
def portrait : Upload := ⟨"", some (Avatar.imageName [0x78] ".png", [0x78])⟩

/-- A board with the two accounts. -/
def pair (images : Table (Stored Image)) : Store :=
  { Store.fresh opened with
    users := some ((Table.empty.placeNew 1 (.sound alice.row)).placeNew 2 (.sound bob.row))
    images := some images }

/-- The rows of the two accounts. -/
theorem users_pair (images : Table (Stored Image)) :
    rowsOf (pair images).users = [⟨2, .sound bob.row⟩, ⟨1, .sound alice.row⟩] := rfl

/-- Each of the two may change its profile. -/
theorem changes_pair (images : Table (Stored Image)) :
    dresses.request.Changes setting (pair images) alice portrait
      ∧ dressesBob.Changes setting (pair images) bob portrait := by
  have hupload : dresses.request.upload? = some portrait := by decide +kernel
  have hbob : Session.userId? setting.secret setting.seconds (Cookie.ofLines [bobsCookies])
      = some 2 := by decide +kernel
  have halice : ⟨1, .sound alice.row⟩ ∈ rowsOf (pair images).users := by simp [users_pair]
  have hother : ⟨2, .sound bob.row⟩ ∈ rowsOf (pair images).users := by simp [users_pair]
  exact ⟨⟨Visitor.ofCookies_eq_account_iff.2 ⟨session_cookies, halice⟩, rfl, rfl, hupload⟩,
    ⟨Visitor.ofCookies_eq_account_iff.2 ⟨hbob, hother⟩, rfl, rfl,
      (dresses.request.upload?_cookieLines [bobsCookies]).trans hupload⟩⟩

/-- Both bring the same picture. -/
theorem digestsApart_pair : dresses.request.DigestsApart dressesBob := by
  intro extension extension' data data' h h' _
  have hbob : dresses.request.Brings extension' data' := ⟨rfl, rfl, h'.sent, h'.ne⟩
  exact (h.unique hbob).2

/-- The images of a new board. -/
def freshImages : Table (Stored Image) :=
  Table.empty.placeNew 1 (.sound ⟨DefaultAvatar.name, DefaultAvatar.data⟩)

/-- Images that have one id left. -/
def lastId : Table (Stored Image) := Table.empty.raise (largestId - 1)

end Sample

/-- Two accounts that give themselves the same picture. -/
theorem profiles_commute_pair :
    Sample.dresses.request.Changes Sample.setting (Sample.pair Sample.freshImages) Sample.alice
        Sample.portrait
      ∧ Sample.dressesBob.Changes Sample.setting (Sample.pair Sample.freshImages) Sample.bob
        Sample.portrait
      ∧ Commuting Sample.setting Sample.setting (Sample.pair Sample.freshImages) Sample.alice
        Sample.bob Sample.portrait Sample.portrait Sample.dresses.request Sample.dressesBob := by
  obtain ⟨halice, hbob⟩ := Sample.changes_pair Sample.freshImages
  refine ⟨halice, hbob, profiles_commute halice hbob (by decide) Sample.digestsApart_pair ?_⟩
  rintro - - t ⟨⟩
  decide +kernel

/-- When the images have one id left, it goes to the first of two requests with a picture, and the
account of the other one keeps its avatar. -/
theorem profiles_last_id :
    Sample.dresses.request.Changes Sample.setting (Sample.pair Sample.lastId) Sample.alice
        Sample.portrait
      ∧ Sample.dressesBob.Changes Sample.setting (Sample.pair Sample.lastId) Sample.bob
        Sample.portrait
      ∧ Sample.alice.id ≠ Sample.bob.id ∧ Sample.dresses.request.DigestsApart Sample.dressesBob
      ∧ (serve Sample.setting Sample.dressesBob
          (serve Sample.setting Sample.dresses.request (Sample.pair Sample.lastId)).2).2.users
        ≠ (serve Sample.setting Sample.dresses.request
          (serve Sample.setting Sample.dressesBob (Sample.pair Sample.lastId)).2).2.users := by
  obtain ⟨halice, hbob⟩ := Sample.changes_pair Sample.lastId
  have hne : Sample.alice.id ≠ Sample.bob.id := by decide
  refine ⟨halice, hbob, hne, Sample.digestsApart_pair, fun heq => ?_⟩
  rw [(halice.after hbob hne).store_eq, halice.store_eq, (hbob.after halice hne.symm).store_eq,
    hbob.store_eq] at heq
  have havatars := congrArg (fun t => (rowsOf t).map fun x => User.avatarOf x.row) heq
  exact absurd havatars (by decide +kernel)

end ChatBoard

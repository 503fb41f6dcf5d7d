import ChatBoard.Benchmark.CommandLine
import ChatBoard.Proofs.Files

/-!
# Runs are scored by what they leave

Before each run the output is cleared, so what a run is scored by is what it has left itself
(`World.left?`), and the files are the same before every run (`Command.Ready.next`). One run of a
series is told by `runFrom_succ`; by induction a series gives the scores of its runs in turn
(`runFrom_scores`) or stops with the first run that has none (`runFrom_fault`). What stood at the
output beforehand and how the runs exit is not looked at. Whatever a series comes to, it changes
nothing but its output (`sameElsewhere_runFrom`), and when it fails the program ends with a message
and nothing else.

A command can be carried out if its program is there, at its path or in a directory of the search
path (`Command.startable_eq_ok_iff`), and a file can be left at its output. The scores are given
their room before the first run: if the machine has none (`Machine.HasRoom`), no run is made and the
program breaks down (`run_of_noRoom`).
-/

namespace ChatBoard.Benchmark

/-! ## One run -/

/-- What a performance leaves at a path, if it writes something and can. -/
def Performance.leaves (p : Performance) (path : String) (fs : Files) : Option Octets :=
  p.written.filter fun data => (fs.write path data).toBool

/-- A performance leaves what it writes where a path leads to a place at which nothing stands. -/
theorem Performance.leaves_eq_written {p : Performance} {path : String} {fs : Files} {l : Location}
    (hlocate : fs.locate path = .ok l) (hnode : fs.node? l = none)
    (hdirectory : Files.namesDirectory path = false) : p.leaves path fs = p.written := by
  have hwrite : ∀ data, fs.write path data = .ok (fs.put l (.file data false)) := by
    intro data
    unfold Files.write
    rw [hlocate]
    dsimp only
    rw [hnode]
    exact if_neg (by simp [hdirectory])
  unfold leaves
  cases p.written with
  | none => rfl
  | some data => simp [Option.filter, hwrite, Except.toBool]

/-- The score in what a run has left. -/
def score? (left : Option Octets) : Option Double :=
  left.bind fun data => (readScoreText data).toOption

/-- The score that is read from what a run has left, or why none is. -/
def verdict (path : String) (left : Option Octets) : Except RunFault Double :=
  match left with
  | none => .error (.unreadable path .notFound)
  | some data => (readScoreText data).mapError (.malformed path)

/-- A verdict that is a score is the score of what has been left. -/
theorem verdict_eq_ok_iff {path : String} {left : Option Octets} {x : Double} :
    verdict path left = .ok x ↔ score? left = some x := by
  cases left with
  | none => simp [verdict, score?]
  | some data =>
    unfold verdict score?
    dsimp only [Option.bind_some]
    cases readScoreText data with
    | ok y => exact ⟨fun h => congrArg some (Except.ok.inj h),
        fun h => congrArg Except.ok (Option.some.inj h)⟩
    | error problem => exact ⟨nofun, nofun⟩

/-- A performance leaves the files as they are, or it leaves a file at the path. -/
theorem Performance.apply_cases (p : Performance) (path : String) (fs : Files) :
    (p.leaves path fs = none ∧ p.apply path fs = fs)
      ∨ ∃ data, p.leaves path fs = some data ∧ fs.write path data = .ok (p.apply path fs) := by
  unfold leaves apply
  cases p.written with
  | none => exact .inl ⟨rfl, rfl⟩
  | some data =>
    cases hwrite : fs.write path data with
    | error fault => simp [Option.filter, hwrite, Except.toBool]
    | ok fs' => simp [Option.filter, hwrite, Except.toBool]

/-- Where nothing stands, a performance is scored by what it leaves. -/
theorem readScore_apply {fs : Files} {path : String} (h : fs.read path = .error .notFound)
    (p : Performance) : readScore path (p.apply path fs) = verdict path (p.leaves path fs) := by
  obtain ⟨hnone, hkept⟩ | ⟨data, hsome, hwrite⟩ := p.apply_cases path fs
  · rw [hnone, hkept, readScore, h]
    rfl
  · rw [hsome, readScore, Files.read_of_write hwrite]
    rfl

/-- A performance leaves a file at the output or nothing, and that goes without a trace. -/
theorem without_apply {fs : Files} {path : String} (h : fs.read path = .error .notFound)
    (p : Performance) :
    (p.apply path fs).Plain path ∧ (p.apply path fs).without path = fs := by
  have hwithout : fs.without path = fs := Files.without_of_notFound h
  obtain ⟨-, hkept⟩ | ⟨data, -, hwrite⟩ := p.apply_cases path fs
  · rw [hkept]
    refine ⟨fun cause hcause => ?_, hwithout⟩
    rw [h] at hcause
    exact (Except.error.inj hcause).symm
  · refine ⟨fun cause hcause => ?_, ?_⟩
    · rw [Files.read_of_write hwrite] at hcause
      cases hcause
    · rw [Files.without_of_write hwrite, hwithout]

/-- Where nothing stands or a file does, the output is cleared. -/
theorem clear_eq {fs : Files} {path : String} (h : fs.Plain path) :
    clear path fs = .ok (fs.without path) := by
  unfold clear Files.without
  cases hread : fs.read path with
  | error cause =>
    have hnone : fs.read path = .error .notFound := by rw [hread, h cause hread]
    rw [Files.remove_of_notFound hnone]
  | ok data =>
    obtain ⟨l, program, -, -, hremove⟩ := Files.remove_of_read hread
    rw [hremove]

/-! ## Starting a program -/

variable {c : Command} {w : World} {n number : Nat}

/-- A program can be started from one of some paths if it can from the first one that is not passed
over. -/
theorem Command.startableAmong_eq_ok_iff {fs : Files} {paths : List String} (told : StartFault) :
    c.startableAmong fs told paths = .ok ()
      ↔ ∃ before path after, paths = before ++ path :: after
        ∧ (∀ p ∈ before, ∃ cause, c.startableAt fs p = .error cause ∧ cause.isPassedOver = true)
        ∧ c.startableAt fs path = .ok () := by
  induction paths generalizing told with
  | nil =>
    refine ⟨fun h => (nomatch h), ?_⟩
    rintro ⟨before, path, after, hpaths, -⟩
    cases before <;> cases hpaths
  | cons p rest ih =>
    unfold startableAmong
    cases hp : c.startableAt fs p with
    | ok _ => exact ⟨fun _ => ⟨[], p, rest, rfl, nofun, hp⟩, fun _ => rfl⟩
    | error cause =>
      dsimp only
      constructor
      · intro h
        split at h
        next hpassed =>
          obtain ⟨before, path, after, rfl, hbefore, hpath⟩ := (ih _).1 h
          refine ⟨p :: before, path, after, rfl, ?_, hpath⟩
          exact List.forall_mem_cons.2 ⟨⟨cause, hp, hpassed⟩, hbefore⟩
        · cases h
      · rintro ⟨before, path, after, hpaths, hbefore, hpath⟩
        cases before with
        | nil =>
          cases hpaths
          rw [hp] at hpath
          cases hpath
        | cons q before =>
          cases hpaths
          obtain ⟨⟨cause', hcause, hpassed⟩, hmore⟩ := List.forall_mem_cons.1 hbefore
          rw [hp] at hcause
          cases hcause
          rw [if_pos hpassed]
          exact (ih _).2 ⟨before, path, after, rfl, hmore, hpath⟩

/-- A program can be started if nothing that it is called with has a NUL, its name is not too long
to be looked for, and it can be started from the first of its paths that is not passed over. -/
theorem Command.startable_eq_ok_iff {m : Machine} {fs : Files} :
    c.startable m fs = .ok ()
      ↔ (∀ word ∈ c.program :: c.arguments, '\x00' ∉ word.toList)
        ∧ ('/' ∈ c.program.toList ∨ c.program.utf8ByteSize ≤ Files.nameLimit)
        ∧ ∃ before path after, m.candidates c.program = before ++ path :: after
          ∧ (∀ p ∈ before, ∃ cause, c.startableAt fs p = .error cause ∧ cause.isPassedOver = true)
          ∧ c.startableAt fs path = .ok () := by
  have hnul : ((c.program :: c.arguments).any fun word => word.toList.contains '\x00') = false
      ↔ ∀ word ∈ c.program :: c.arguments, '\x00' ∉ word.toList := by
    simp only [List.any_eq_false, List.contains_iff_mem]
  have hlong : (!c.program.toList.contains '/'
        && decide (c.program.utf8ByteSize > Files.nameLimit)) = false
      ↔ '/' ∈ c.program.toList ∨ c.program.utf8ByteSize ≤ Files.nameLimit := by
    simp [Decidable.or_iff_not_imp_left]
  rw [← hnul, ← hlong, ← startableAmong_eq_ok_iff (.program .notFound)]
  unfold startable
  constructor
  · intro h
    split at h
    · cases h
    next hwords =>
      split at h
      · cases h
      next hname => exact ⟨Bool.eq_false_iff.2 hwords, Bool.eq_false_iff.2 hname, h⟩
  · rintro ⟨hwords, hname, h⟩
    rw [if_neg (Bool.eq_false_iff.1 hwords), if_neg (Bool.eq_false_iff.1 hname)]
    exact h

/-! ## Series -/

/-- What a program does in its run `i`, counted from 0. -/
def World.performance (w : World) (i : Nat) : Performance := w.upcoming.getD i .idle

/-- What run `i` leaves where the output has been cleared. -/
def World.left? (c : Command) (w : World) (i : Nat) : Option Octets :=
  (w.performance i).leaves c.output (w.files.without c.output)

/-- A command can be carried out: nothing or a file stands where it leaves its result, and its
program can be started once that is cleared. -/
structure Command.Ready (c : Command) (w : World) : Prop where
  plain : w.files.Plain c.output
  startable : c.startable w.machine (w.files.without c.output) = .ok ()

/-- There is room for the scores of a series: they can be asked for, and the machine gives them. -/
structure Machine.HasRoom (m : Machine) (n : Nat) : Prop where
  countable : n ≤ scoreLimit
  given : n * scoreSize ≤ m.memory

/-- The world after one run. -/
def World.next (c : Command) (w : World) : World :=
  ({ w with files := w.files.without c.output } : World).start c

/-- The world after some runs. -/
def World.after (c : Command) : Nat → World → World
  | 0, w => w
  | k + 1, w => after c k (w.next c)

/-- The files of the next run are those of this one, once the output has been cleared. -/
theorem World.without_next (h : w.files.Plain c.output) :
    (w.next c).files.without c.output = w.files.without c.output :=
  (without_apply (Files.read_without h) _).2

/-- After a run the command can be carried out again. -/
theorem Command.Ready.next (h : c.Ready w) : c.Ready (w.next c) where
  plain := (without_apply (Files.read_without h.plain) _).1
  startable := by
    have hmachine : (w.next c).machine = w.machine := rfl
    rw [hmachine, World.without_next h.plain]
    exact h.startable

/-- What the runs after the first one leave. -/
theorem World.left?_next (h : w.files.Plain c.output) (i : Nat) :
    (w.next c).left? c i = w.left? c (i + 1) := by
  unfold World.left?
  have hperformance : (w.next c).performance i = w.performance (i + 1) := by
    unfold World.performance
    cases hupcoming : w.upcoming with
    | nil =>
      have hnone : (w.next c).upcoming = [] := congrArg List.tail hupcoming
      rw [hnone]
      rfl
    | cons p rest =>
      have hrest : (w.next c).upcoming = rest := congrArg List.tail hupcoming
      rw [hrest]
      rfl
  rw [hperformance, World.without_next h]

/-- Each run is one call with the arguments of the command. -/
theorem World.calls_after (k : Nat) (w : World) :
    (w.after c k).calls = List.replicate k c.arguments ++ w.calls := by
  induction k generalizing w with
  | zero => rfl
  | succ k ih =>
    have hcalls : (w.next c).calls = c.arguments :: w.calls := rfl
    rw [World.after, ih, hcalls, List.replicate_succ', List.append_assoc]
    rfl

/-- One run of a series: it is scored by what it leaves, and without a score the series ends. -/
theorem runFrom_succ (h : c.Ready w) (number left : Nat) :
    runFrom c number (left + 1) w = match verdict c.output (w.left? c 0) with
      | .error fault => (.error (.run number fault), w.next c)
      | .ok score =>
        match runFrom c (number + 1) left (w.next c) with
        | (.error fault, w) => (.error fault, w)
        | (.ok scores, w) => (.ok (score :: scores), w) := by
  have hfirst : w.performance 0 = w.upcoming.headD .idle := by
    unfold World.performance
    cases w.upcoming <;> rfl
  have hverdict : readScore c.output (w.next c).files = verdict c.output (w.left? c 0) := by
    unfold World.left?
    rw [hfirst]
    exact readScore_apply (Files.read_without h.plain) _
  have honce : runOnce c { w with files := w.files.without c.output }
      = (verdict c.output (w.left? c 0), w.next c) := by
    unfold runOnce
    rw [h.startable, ← hverdict]
    rfl
  rw [runFrom, clear_eq h.plain]
  dsimp only
  rw [honce]
  cases verdict c.output (w.left? c 0) <;> rfl

/-- A series whose runs all leave a score gives these scores in turn. -/
theorem runFrom_scores (h : c.Ready w) {scores : List Double} (number : Nat)
    (hscores : ∀ i (hi : i < scores.length), score? (w.left? c i) = some scores[i]) :
    runFrom c number scores.length w = (.ok scores, w.after c scores.length) := by
  -- By induction on the scores: later runs leave in the next world what they leave in this one.
  induction scores generalizing w number with
  | nil => rfl
  | cons score scores ih =>
    have hfirst : verdict c.output (w.left? c 0) = .ok score :=
      verdict_eq_ok_iff.2 (hscores 0 (Nat.succ_pos _))
    have hrest : ∀ i (hi : i < scores.length),
        score? ((w.next c).left? c i) = some scores[i] := by
      intro i hi
      rw [World.left?_next h.plain]
      exact hscores (i + 1) (Nat.succ_lt_succ hi)
    rw [List.length_cons, runFrom_succ h, hfirst]
    dsimp only
    rw [ih h.next (number + 1) hrest]
    rfl

/-- A series stops with the first of its runs that leaves no score. -/
theorem runFrom_fault (h : c.Ready w) {k left : Nat} (number : Nat) (hk : k < left)
    (hbefore : ∀ i < k, (score? (w.left? c i)).isSome) {fault : RunFault}
    (hfault : verdict c.output (w.left? c k) = .error fault) :
    runFrom c number left w = (.error (.run (number + k) fault), w.after c (k + 1)) := by
  induction k generalizing w number left with
  | zero =>
    obtain ⟨left, rfl⟩ : ∃ m, left = m + 1 := ⟨left - 1, by omega⟩
    rw [runFrom_succ h, hfault]
    rfl
  | succ k ih =>
    obtain ⟨left, rfl⟩ : ∃ m, left = m + 1 := ⟨left - 1, by omega⟩
    obtain ⟨score, hscore⟩ := Option.isSome_iff_exists.1 (hbefore 0 (by omega))
    have hrest : ∀ i < k, (score? ((w.next c).left? c i)).isSome := by
      intro i hi
      rw [World.left?_next h.plain]
      exact hbefore (i + 1) (by omega)
    have hlast : verdict c.output ((w.next c).left? c k) = .error fault := by
      rw [World.left?_next h.plain]
      exact hfault
    rw [runFrom_succ h, verdict_eq_ok_iff.2 hscore]
    dsimp only
    rw [ih h.next (number + 1) (by omega) hrest hlast, Nat.add_assoc, Nat.add_comm 1 k]
    rfl

/-! ## Whole series -/

/-- There is room for the scores of a series unless a fault says why not. -/
theorem Machine.roomFault?_eq_none_iff {m : Machine} : m.roomFault? n = none ↔ m.HasRoom n := by
  unfold roomFault?
  constructor
  · intro h
    split at h
    · cases h
    next hcountable =>
      split at h
      · cases h
      next hgiven => exact ⟨Nat.le_of_not_gt hcountable, Nat.le_of_not_gt hgiven⟩
  · intro h
    rw [if_neg (Nat.not_lt_of_ge h.countable), if_neg (Nat.not_lt_of_ge h.given)]

/-- A series that has runs and room for their scores goes from the first run on. -/
theorem runAll_eq (hn : 0 < n) (hroom : w.machine.HasRoom n) :
    runAll c n w = runFrom c 1 n w := by
  unfold runAll
  rw [if_neg (Nat.ne_of_gt hn), Machine.roomFault?_eq_none_iff.2 hroom]

/-- A series without room for its scores does nothing. -/
theorem runAll_noRoom (hn : 0 < n) {cause : RoomFault}
    (hcause : w.machine.roomFault? n = some cause) :
    runAll c n w = (.error (.noRoom cause), w) := by
  unfold runAll
  rw [if_neg (Nat.ne_of_gt hn), hcause]

/-- Where all runs leave a score, the scores are a list. -/
theorem exists_scores (h : ∀ i < n, (score? (w.left? c i)).isSome) :
    ∃ scores : List Double, scores.length = n
      ∧ ∀ i (hi : i < scores.length), score? (w.left? c i) = some scores[i] := by
  refine ⟨List.ofFn fun i : Fin n => (score? (w.left? c i)).get (h i i.isLt), List.length_ofFn,
    fun i hi => ?_⟩
  rw [List.getElem_ofFn, Option.some_get]

/-- Where not all runs leave a score, one of them is the first that leaves none. -/
theorem exists_first (h : ¬ ∀ i < n, (score? (w.left? c i)).isSome) :
    ∃ k < n, (∀ i < k, (score? (w.left? c i)).isSome) ∧ score? (w.left? c k) = none := by
  induction n with
  | zero => exact absurd (fun i hi => absurd hi (Nat.not_lt_zero i)) h
  | succ n ih =>
    by_cases hbefore : ∀ i < n, (score? (w.left? c i)).isSome
    · refine ⟨n, Nat.lt_succ_self n, hbefore, Option.not_isSome_iff_eq_none.1 fun hlast => h ?_⟩
      intro i hi
      obtain hlt | rfl := Nat.lt_succ_iff_lt_or_eq.1 hi
      · exact hbefore i hlt
      · exact hlast
    · obtain ⟨k, hk, hfirst⟩ := ih hbefore
      exact ⟨k, Nat.lt_succ_of_lt hk, hfirst⟩

/-- What a run leaves does not depend on how the runs exit, nor on what stood at the output. -/
theorem World.left?_congr {w' : World}
    (hfiles : w'.files.without c.output = w.files.without c.output)
    (hwritten : w'.upcoming.map (·.written) = w.upcoming.map (·.written)) (i : Nat) :
    w'.left? c i = w.left? c i := by
  have hsame : (w'.performance i).written = (w.performance i).written := by
    have hmap : ∀ v : World, (v.performance i).written
        = (v.upcoming.map (·.written)).getD i none := by
      intro v
      unfold World.performance
      rw [List.getD_eq_getElem?_getD, List.getD_eq_getElem?_getD, List.getElem?_map]
      cases v.upcoming[i]? <;> rfl
    rw [hmap, hmap, hwritten]
  unfold left? Performance.leaves
  rw [hsame, hfiles]

/-- What a series of runs of a command comes to. -/
structure SeriesTells (c : Command) (n : Nat) (w : World) : Prop where
  /-- Where the output leads to a place, a run leaves what the program writes. -/
  writes : ∀ l, (w.files.without c.output).locate c.output = .ok l →
    Files.namesDirectory c.output = false → ∀ i, w.left? c i = (w.performance i).written
  /-- It has scores just when each run leaves one. -/
  scored : (∃ scores, (runAll c n w).1 = .ok scores)
    ↔ ∀ i < n, (score? (w.left? c i)).isSome
  /-- Then the scores are those of the runs in turn, each of which is one call. -/
  inTurn : ∀ scores, (runAll c n w).1 = .ok scores → scores.length = n
    ∧ (∀ i (hi : i < scores.length), score? (w.left? c i) = some scores[i])
    ∧ (runAll c n w).2.calls = List.replicate n c.arguments ++ w.calls
  /-- Otherwise it stops with the first run that leaves none, names it and says why. -/
  stops : ∀ k < n, (∀ i < k, (score? (w.left? c i)).isSome) → score? (w.left? c k) = none →
    ∃ fault, verdict c.output (w.left? c k) = .error fault
      ∧ (runAll c n w).1 = .error (.run (k + 1) fault)
      ∧ (runAll c n w).2.calls = List.replicate (k + 1) c.arguments ++ w.calls
  /-- What stood at the output and how the runs exit makes no difference. -/
  unaffected : ∀ w' : World, w'.machine = w.machine → w'.files.Plain c.output →
    w'.files.without c.output = w.files.without c.output →
    w'.upcoming.map (·.written) = w.upcoming.map (·.written) → (runAll c n w').1 = (runAll c n w).1
  /-- So a file that stands there might have any content. -/
  stale : ∀ data fs, w.files.write c.output data = .ok fs →
    (runAll c n { w with files := fs }).1 = (runAll c n w).1
  /-- It might also not be there. -/
  absent : (runAll c n { w with files := w.files.without c.output }).1 = (runAll c n w).1

/-- A series gives the scores that its runs leave, in turn. -/
theorem runAll_scores (h : c.Ready w) (hn : 0 < n) (hroom : w.machine.HasRoom n)
    (hall : ∀ i < n, (score? (w.left? c i)).isSome) :
    ∃ scores : List Double, scores.length = n
      ∧ (∀ i (hi : i < scores.length), score? (w.left? c i) = some scores[i])
      ∧ runAll c n w = (.ok scores, w.after c n) := by
  obtain ⟨scores, rfl, hscores⟩ := exists_scores hall
  refine ⟨scores, rfl, hscores, ?_⟩
  rw [runAll_eq hn hroom, runFrom_scores h 1 hscores]

/-- A series stops with the first run that leaves no score. -/
theorem runAll_fault (h : c.Ready w) (hroom : w.machine.HasRoom n) {k : Nat} (hk : k < n)
    (hbefore : ∀ i < k, (score? (w.left? c i)).isSome) (hnone : score? (w.left? c k) = none) :
    ∃ fault, verdict c.output (w.left? c k) = .error fault
      ∧ runAll c n w = (.error (.run (k + 1) fault), w.after c (k + 1)) := by
  cases hverdict : verdict c.output (w.left? c k) with
  | ok score =>
    rw [verdict_eq_ok_iff, hnone] at hverdict
    cases hverdict
  | error fault =>
    refine ⟨fault, rfl, ?_⟩
    rw [runAll_eq (by omega) hroom, runFrom_fault h 1 hk hbefore hverdict, Nat.add_comm 1 k]

/-- What a series comes to depends on what its runs leave, and on nothing else. -/
theorem runAll_congr {w' : World} (h : c.Ready w) (h' : c.Ready w') (hn : 0 < n)
    (hroom : w.machine.HasRoom n) (hroom' : w'.machine.HasRoom n)
    (hleft : ∀ i, w'.left? c i = w.left? c i) : (runAll c n w').1 = (runAll c n w).1 := by
  by_cases hall : ∀ i < n, (score? (w.left? c i)).isSome
  · obtain ⟨scores, hlength, hscores, hrun⟩ := runAll_scores h hn hroom hall
    have hscores' : ∀ i (hi : i < scores.length), score? (w'.left? c i) = some scores[i] := by
      intro i hi
      rw [hleft]
      exact hscores i hi
    rw [hrun, runAll_eq hn hroom', ← hlength, runFrom_scores h' 1 hscores']
  · obtain ⟨k, hk, hbefore, hnone⟩ := exists_first hall
    obtain ⟨fault, hverdict, hrun⟩ := runAll_fault h hroom hk hbefore hnone
    have hbefore' : ∀ i < k, (score? (w'.left? c i)).isSome := by
      intro i hi
      rw [hleft]
      exact hbefore i hi
    rw [← hleft] at hnone hverdict
    obtain ⟨fault', hverdict', hrun'⟩ := runAll_fault h' hroom' hk hbefore' hnone
    rw [hverdict] at hverdict'
    cases hverdict'
    rw [hrun, hrun']

/-- If a series has scores, each of its runs leaves one. -/
theorem isSome_of_runAll (h : c.Ready w) (hroom : w.machine.HasRoom n) {scores : List Double}
    (hscores : (runAll c n w).1 = .ok scores) : ∀ i < n, (score? (w.left? c i)).isSome := by
  by_cases hall : ∀ i < n, (score? (w.left? c i)).isSome
  · exact hall
  · -- The series would have stopped with the first run that left no score.
    obtain ⟨k, hk, hbefore, hnone⟩ := exists_first hall
    obtain ⟨fault, -, hrun⟩ := runAll_fault h hroom hk hbefore hnone
    rw [hrun] at hscores
    cases hscores

/-- What a series comes to does not depend on what stood at the output, nor on how the runs exit. -/
theorem runAll_unaffected {w' : World} (h : c.Ready w) (hn : 0 < n) (hroom : w.machine.HasRoom n)
    (hmachine : w'.machine = w.machine) (hplain : w'.files.Plain c.output)
    (hfiles : w'.files.without c.output = w.files.without c.output)
    (hwritten : w'.upcoming.map (·.written) = w.upcoming.map (·.written)) :
    (runAll c n w').1 = (runAll c n w).1 := by
  have hready : c.Ready w' := by
    refine ⟨hplain, ?_⟩
    rw [hmachine, hfiles]
    exact h.startable
  have hroom' : w'.machine.HasRoom n := by
    rw [hmachine]
    exact hroom
  exact runAll_congr h hready hn hroom hroom' (World.left?_congr hfiles hwritten)

/-- Where the output leads to a place, a run leaves what the program writes. -/
theorem World.left?_eq_written (h : w.files.Plain c.output) {l : Location}
    (hlocate : (w.files.without c.output).locate c.output = .ok l)
    (hdirectory : Files.namesDirectory c.output = false) (i : Nat) :
    w.left? c i = (w.performance i).written := by
  refine Performance.leaves_eq_written hlocate ?_ hdirectory
  obtain hnowhere | ⟨k, hk, hnode⟩ := Files.read_eq_notFound_iff.1 (Files.read_without h)
  · rw [hlocate] at hnowhere
    cases hnowhere
  · rw [hlocate] at hk
    cases hk
    exact hnode

/-- A series of runs is told by what the runs leave. -/
theorem seriesTells (h : c.Ready w) (hn : 0 < n) (hroom : w.machine.HasRoom n) :
    SeriesTells c n w where
  writes l hlocate hdirectory := World.left?_eq_written h.plain hlocate hdirectory
  scored := by
    refine ⟨fun ⟨scores, hscores⟩ => isSome_of_runAll h hroom hscores, fun hall => ?_⟩
    obtain ⟨scores, -, -, hrun⟩ := runAll_scores h hn hroom hall
    exact ⟨scores, by rw [hrun]⟩
  inTurn scores hscores := by
    have hall := isSome_of_runAll h hroom hscores
    obtain ⟨scores', hlength, hscores', hrun⟩ := runAll_scores h hn hroom hall
    rw [hrun] at hscores ⊢
    cases hscores
    exact ⟨hlength, hscores', World.calls_after n w⟩
  stops k hk hbefore hnone := by
    obtain ⟨fault, hverdict, hrun⟩ := runAll_fault h hroom hk hbefore hnone
    refine ⟨fault, hverdict, ?_, ?_⟩
    · rw [hrun]
    · rw [hrun]
      exact World.calls_after (k + 1) w
  unaffected w' := runAll_unaffected h hn hroom
  stale data fs hwrite := by
    refine runAll_unaffected h hn hroom rfl (fun cause hcause => ?_)
      (Files.without_of_write hwrite) rfl
    rw [Files.read_of_write hwrite] at hcause
    cases hcause
  absent := by
    have hgone := Files.read_without h.plain
    refine runAll_unaffected h hn hroom rfl (fun cause hcause => ?_)
      (Files.without_of_notFound hgone) rfl
    rw [hgone] at hcause
    exact (Except.error.inj hcause).symm

/-! ## Failures -/

/-- Clearing the output changes nothing elsewhere. -/
theorem sameElsewhere_clear {path : String} {fs fs' : Files} (h : clear path fs = .ok fs') :
    fs.SameElsewhere path fs' := by
  unfold clear at h
  split at h
  · cases h
    exact .refl _ _
  · exact Files.sameElsewhere_remove h

/-- A performance changes nothing elsewhere. -/
theorem sameElsewhere_apply (p : Performance) (path : String) (fs : Files) :
    fs.SameElsewhere path (p.apply path fs) := by
  obtain ⟨-, hkept⟩ | ⟨data, -, hwrite⟩ := p.apply_cases path fs
  · rw [hkept]
    exact .refl _ _
  · exact Files.sameElsewhere_write hwrite

/-- A run changes nothing elsewhere, whatever it comes to. -/
theorem sameElsewhere_runOnce (c : Command) (w : World) :
    w.files.SameElsewhere c.output (runOnce c w).2.files := by
  unfold runOnce
  split
  · exact .refl _ _
  · exact sameElsewhere_apply _ _ _

/-- A series of runs changes nothing elsewhere, whatever it comes to. -/
theorem sameElsewhere_runFrom (c : Command) (number left : Nat) (w : World) :
    w.files.SameElsewhere c.output (runFrom c number left w).2.files := by
  induction left generalizing number w with
  | zero => exact .refl _ _
  | succ left ih =>
    unfold runFrom
    split
    · exact .refl _ _
    next fs hclear =>
      have hcleared := sameElsewhere_clear hclear
      have honce := sameElsewhere_runOnce c { w with files := fs }
      split
      next hrun =>
        rw [hrun] at honce
        exact hcleared.trans honce
      next score w' hrun =>
        rw [hrun] at honce
        have hrest := ih (number + 1) w'
        split <;> next hrun' =>
          rw [hrun'] at hrest
          exact hcleared.trans (honce.trans hrest)

/-- The command that an invocation asks for. -/
def Invocation.command (i : Invocation) : Command := .make i.bench i.remotes i.output

/-- What runs of benchmark programs come to in a world. -/
structure RunsTell (w : World) : Prop where
  /-- A command that can be carried out is scored by what its runs leave, if there is room for the
  scores. -/
  series : ∀ c : Command, c.Ready w → ∀ n, 0 < n → w.machine.HasRoom n → SeriesTells c n w
  /-- Without runs nothing is done. -/
  noRuns : ∀ c, runAll c 0 w = (.error .noRuns, w)
  /-- Nor is anything done if the scores have more octets than can be asked for. -/
  uncountable : ∀ c n, scoreLimit < n → runAll c n w = (.error (.noRoom .overflow), w)
  /-- Nor if the machine does not give these octets. -/
  refused : ∀ c n, 0 < n → n ≤ scoreLimit → w.machine.memory < n * scoreSize →
    runAll c n w = (.error (.noRoom (.refused (n * scoreSize))), w)
  /-- When a series fails, the program ends with status 1 and a message. It prints no line, and the
  files are those that the series has left, which changes nothing but its output. -/
  failing : ∀ args moment i, Invocation.ofArguments args = .ok i →
    ∀ fault, (runAll i.command i.runs w).1 = .error fault → (∀ cause, fault ≠ .noRoom cause) →
      run args moment w
          = (⟨some 1, [], some ("Error: " ++ fault.message)⟩, (runAll i.command i.runs w).2)
        ∧ w.files.SameElsewhere i.output (run args moment w).2.files
  /-- Without room for the scores it breaks down at once: with status 101 if so much cannot be asked
  for, and without a status if it is not given. -/
  brokenDown : ∀ args moment i, Invocation.ofArguments args = .ok i →
    (scoreLimit < i.runs → run args moment w = (⟨some 101, [], none⟩, w))
      ∧ (0 < i.runs → i.runs ≤ scoreLimit → w.machine.memory < i.runs * scoreSize →
        run args moment w = (⟨none, [], none⟩, w))

/-- The program carries out what its arguments ask for. -/
theorem run_of_arguments {args : List String} {i : Invocation}
    (hi : Invocation.ofArguments args = .ok i) (moment : Moment) (w : World) :
    run args moment w = carryOut i moment w := by
  unfold run
  rw [hi]

/-- The program ends with the message of the series, unless there was no room for the scores. -/
theorem run_of_fault {args : List String} {i : Invocation}
    (hi : Invocation.ofArguments args = .ok i) (moment : Moment) {fault : SeriesFault}
    (hfault : (runAll i.command i.runs w).1 = .error fault)
    (hroom : ∀ cause, fault ≠ .noRoom cause) :
    run args moment w
      = (⟨some 1, [], some ("Error: " ++ fault.message)⟩, (runAll i.command i.runs w).2) := by
  rw [run_of_arguments hi, carryOut, ← Invocation.command]
  cases hseries : runAll i.command i.runs w with
  | mk result w' =>
    rw [hseries] at hfault
    cases hfault
    cases fault with
    | noRoom cause => exact absurd rfl (hroom cause)
    | noRuns => rfl
    | notCleared path cause => rfl
    | run number fault => rfl

/-- The program breaks down where there is no room for the scores. -/
theorem run_of_noRoom {args : List String} {i : Invocation}
    (hi : Invocation.ofArguments args = .ok i) (moment : Moment) {cause : RoomFault}
    (hseries : runAll i.command i.runs w = (.error (.noRoom cause), w)) :
    run args moment w = (.brokenDown cause, w) := by
  rw [run_of_arguments hi, carryOut, ← Invocation.command, hseries]

/-- A series changes nothing but its output. -/
theorem sameElsewhere_runAll (c : Command) (n : Nat) (w : World) :
    w.files.SameElsewhere c.output (runAll c n w).2.files := by
  unfold runAll
  split
  · exact .refl _ _
  · split
    · exact .refl _ _
    · exact sameElsewhere_runFrom c 1 n w

/-- Runs are scored by what they leave themselves, and by nothing else. -/
theorem runs_tell (w : World) : RunsTell w := by
  have huncountable : ∀ c n, scoreLimit < n →
      runAll c n w = (.error (.noRoom .overflow), w) := by
    intro c n hn
    exact runAll_noRoom (Nat.zero_lt_of_lt hn) (if_pos hn)
  have hrefused : ∀ c n, 0 < n → n ≤ scoreLimit → w.machine.memory < n * scoreSize →
      runAll c n w = (.error (.noRoom (.refused (n * scoreSize))), w) := by
    intro c n hn hcountable hmemory
    refine runAll_noRoom hn ?_
    unfold Machine.roomFault?
    rw [if_neg (Nat.not_lt_of_ge hcountable), if_pos hmemory]
  refine ⟨fun c h n => seriesTells h, fun c => rfl, huncountable, hrefused,
    fun args moment i hi fault hfault hroom => ?_, fun args moment i hi => ⟨?_, ?_⟩⟩
  · have hrun := run_of_fault hi moment hfault hroom
    refine ⟨hrun, ?_⟩
    rw [hrun]
    exact sameElsewhere_runAll i.command i.runs w
  · intro hn
    exact run_of_noRoom hi moment (huncountable _ _ hn)
  · intro hn hcountable hmemory
    exact run_of_noRoom hi moment (hrefused _ _ hn hcountable hmemory)

/-! ## A workshop -/

namespace Sample

/-- A command with its result in the working directory. -/
def command : Command := .make "bin/bench" "127.0.0.1" "result.json"

/-- A command whose program is named without a path. -/
def shell : Command := ⟨"sh", ["bench.sh"], "result.json"⟩

/-- What the program writes when it has a score. -/
def result : Octets := Octets.ofText "\x7b\"score\": 1.5\x7d"

/-- A program that leaves a score in its first run, exits with status 1 and leaves nothing later.
The result of an earlier series is still there. The second directory in which programs are looked
for has a program, and the machine has memory for `2 ^ 29` scores. -/
def workshop : World where
  machine := ⟨4294967296, some "/usr/local/bin:/usr/bin"⟩
  files := ⟨[(.ofNames ["result.json"], .file result false),
    (.ofNames ["bin"], .directory), (.ofNames ["bin", "bench"], .file [] true),
    (.ofNames ["usr"], .directory), (.ofNames ["usr", "bin"], .directory),
    (.ofNames ["usr", "bin", "sh"], .file [] true)]⟩
  upcoming := [⟨some result, 1⟩]
  calls := []

/-- A file stands where the results are left. -/
theorem plain_workshop : workshop.files.Plain "result.json" := by
  intro cause hcause
  have hread : workshop.files.read "result.json" = .ok result := rfl
  rw [hread] at hcause
  cases hcause

/-- The command can be carried out in the workshop. -/
theorem ready_workshop : command.Ready workshop where
  plain := plain_workshop
  startable := rfl

/-- The other command can be carried out as well: its program is in the second directory. -/
theorem ready_shell : shell.Ready workshop where
  plain := plain_workshop
  startable := Command.startable_eq_ok_iff.2 ⟨by decide, .inr (by decide), ["/usr/local/bin/sh"],
    "/usr/bin/sh", [], rfl, List.forall_mem_singleton.2 ⟨.program .notFound, rfl, rfl⟩, rfl⟩

end Sample

/-- In the workshop a second run is not scored by what the first has left, and a program that is
found on the search path is scored as well. -/
theorem runs_tell_workshop :
    RunsTell Sample.workshop ∧ Sample.command.Ready Sample.workshop
      ∧ (runAll Sample.command 2 Sample.workshop).1
        = .error (.run 2 (.unreadable "result.json" .notFound))
      ∧ Sample.shell.Ready Sample.workshop
      ∧ ∃ score, (runAll Sample.shell 1 Sample.workshop).1 = .ok [score]
        ∧ score? (some Sample.result) = some score := by
  have htell : RunsTell Sample.workshop := runs_tell Sample.workshop
  have hseries := htell.series Sample.command Sample.ready_workshop 2 (by decide)
    ⟨by decide, by decide⟩
  have hfirst : ∀ i < 1, (score? (Sample.workshop.left? Sample.command i)).isSome := by
    decide +kernel
  have hsecond : Sample.workshop.left? Sample.command 1 = none := by decide +kernel
  obtain ⟨fault, hverdict, hrun, -⟩ := hseries.stops 1 (by decide) hfirst (by rw [hsecond]; rfl)
  rw [hsecond] at hverdict
  cases hverdict
  have hshell := htell.series Sample.shell Sample.ready_shell 1 (by decide)
    ⟨by decide, by decide⟩
  have hleft : Sample.workshop.left? Sample.shell 0 = some Sample.result := by decide +kernel
  obtain ⟨scores, hscores⟩ := hshell.scored.2 hfirst
  obtain ⟨hlength, hvalues, -⟩ := hshell.inTurn scores hscores
  obtain ⟨score, rfl⟩ := List.length_eq_one_iff.1 hlength
  have hscore := hvalues 0 Nat.zero_lt_one
  rw [hleft] at hscore
  exact ⟨htell, Sample.ready_workshop, hrun, Sample.ready_shell, score, hscores, hscore⟩

/-- Where there is no room for the scores, the command can be carried out but no run is made, and
the program breaks down. -/
theorem runs_without_room :
    Sample.command.Ready Sample.workshop
      ∧ runAll Sample.command 1152921504606846976 Sample.workshop
        = (.error (.noRoom .overflow), Sample.workshop)
      ∧ (run ["1152921504606846976"] ⟨2024, 3, 5, 9, 8, 7⟩ Sample.workshop).1.status = some 101
      ∧ runAll Sample.command 576460752303423488 Sample.workshop
        = (.error (.noRoom (.refused 4611686018427387904)), Sample.workshop)
      ∧ (run ["576460752303423488"] ⟨2024, 3, 5, 9, 8, 7⟩ Sample.workshop).1.status = none := by
  have hoverflow : runAll Sample.command 1152921504606846976 Sample.workshop
      = (.error (.noRoom .overflow), Sample.workshop) := rfl
  have hrefused : runAll Sample.command 576460752303423488 Sample.workshop
      = (.error (.noRoom (.refused 4611686018427387904)), Sample.workshop) := rfl
  have hasked : Invocation.ofArguments ["1152921504606846976"]
      = .ok ⟨1152921504606846976, "bin/bench", "127.0.0.1", "result.json", "result", true⟩ := rfl
  have hasked' : Invocation.ofArguments ["576460752303423488"]
      = .ok ⟨576460752303423488, "bin/bench", "127.0.0.1", "result.json", "result", true⟩ := rfl
  refine ⟨Sample.ready_workshop, hoverflow, ?_, hrefused, ?_⟩
  · rw [run_of_noRoom hasked _ hoverflow]
    rfl
  · rw [run_of_noRoom hasked' _ hrefused]
    rfl

end ChatBoard.Benchmark

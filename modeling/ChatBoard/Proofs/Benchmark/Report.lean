import ChatBoard.Benchmark.Report
import ChatBoard.Proofs.Benchmark.Statistics
import ChatBoard.Proofs.Files.Directories
import ChatBoard.Proofs.Json.Double
import ChatBoard.Proofs.Text.Padded

/-!
# The saved report is read back

A report is written as one line with an object: the runs by their numbers, and the four values of
the summary (`Report.write_eq`). Each run is named once, in the order of the runs
(`Report.ListsRuns`). A summary is read from the line whatever the runs are, since they are passed
over: it is that of the report if its values are finite, and it is a mismatch if one of them is not
(`Report.told`). The name of the file is that of no directory, and it is short enough, so the report
is saved wherever a file can be written (`Report.savedTo_of_writable`); what an older file held is
gone. That a single finite double is read back from its numeral is assumed (`Summary.Restored`).
-/

namespace ChatBoard

open Json

/-! ## Members that are only passed over -/

/-- Any value, which is passed over. -/
def Json.Schema.passed : Schema Unit where
  read bs := (skipValue bs).map fun rest => ((), rest)
  Shows _ _ := True
  Flawed _ := False
  Relaid _ _ := True
  reads := by
    intro x v bs rest _ hv hrest
    rw [hv.skipValue hrest]
    rfl
  declines := fun h => h.elim
  keeps := fun _ _ => trivial

namespace Json.Filled

/-- A member with a double. -/
def double (name : String) (x : Double) : Filled Unit :=
  ⟨⟨name, .passed⟩, (), ⟨writeDouble x, valueOfDouble x, trivial, stands_writeDouble x⟩⟩

/-- A member with an object. -/
def object (name : String) (ws : List (Filled Unit)) : Filled Unit :=
  ⟨⟨name, .passed⟩, (), ⟨_, .object (ws.map member), trivial, stands_object ws⟩⟩

/-- The keys of filled fields mean their names. -/
theorem named_member (ws : List (Filled Unit)) : Named (ws.map member) := by
  intro m hm
  obtain ⟨w, -, rfl⟩ := List.mem_map.1 hm
  exact ⟨w.field.name, means_escaped w.field.name⟩

end Json.Filled

namespace Benchmark

/-! ## The members of a report -/

namespace Summary

/-- The values of a summary by their names. -/
def named (s : Summary) : List (String × Double) :=
  [("mean", s.mean), ("median", s.median), ("min", s.least), ("max", s.greatest)]

/-- The values of a summary. -/
def values (s : Summary) : List Double := s.named.map (·.2)

/-- The finite ones of the values are read back from their numerals. -/
def Restored (s : Summary) : Prop :=
  ∀ x ∈ s.values, x.isFinite = true → readAll readDouble (writeDouble x) = .ok x

end Summary

namespace Report

variable {r : Report} {scores : List Double}

/-- The members of numbered scores, from `n` on. -/
def runMembers (n : Nat) : List Double → List (Filled Unit)
  | [] => []
  | x :: rest => .double (Numeral.ofNat n) x :: runMembers (n + 1) rest

/-- The members of a report. -/
def members (r : Report) : List (Filled Unit) :=
  .object "results" (runMembers 1 r.scores) :: r.summary.named.map fun m => .double m.1 m.2

/-- Numbered scores are written as their members. -/
theorem numbered_eq (n : Nat) (scores : List Double) :
    numbered n scores = (runMembers n scores).map fun w => (w.field.name, w.written.form) := by
  induction scores generalizing n with
  | nil => rfl
  | cons x rest ih =>
    rw [numbered, ih (n + 1)]
    rfl

/-- A report is written as the object of its members. -/
theorem write_eq (r : Report) :
    r.write = writeObject (r.members.map fun w => (w.field.name, w.written.form)) := by
  unfold write
  rw [numbered_eq]
  rfl

/-- A report is the text of the object of its members. -/
theorem writtenAs_write {rest : Octets} (hrest : skipBlank rest = []) :
    (Value.object (r.members.map Filled.member)).WrittenAs (r.write ++ rest) := by
  refine ⟨rest, ?_, hrest⟩
  rw [write_eq]
  exact Filled.stands_object r.members rest

/-! ## The runs -/

/-- The member of a score has its number as name. -/
theorem runMembers_getElem? (n : Nat) (scores : List Double) (i : Nat) :
    (runMembers n scores)[i]? = scores[i]?.map (.double (Numeral.ofNat (n + i))) := by
  induction scores generalizing n i with
  | nil => rfl
  | cons x rest ih =>
    cases i with
    | zero => rfl
    | succ i =>
      rw [runMembers, List.getElem?_cons_succ, List.getElem?_cons_succ, ih (n + 1) i,
        Nat.add_right_comm]
      rfl

/-- There is a member for each score. -/
theorem length_runMembers (n : Nat) (scores : List Double) :
    (runMembers n scores).length = scores.length := by
  induction scores generalizing n with
  | nil => rfl
  | cons x rest ih => exact congrArg (· + 1) (ih (n + 1))

/-- The names are the numerals in a row. -/
theorem names_runMembers (n : Nat) (scores : List Double) :
    (runMembers n scores).map (·.field.name)
      = (List.range' n scores.length).map Numeral.ofNat := by
  induction scores generalizing n with
  | nil => rfl
  | cons x rest ih =>
    rw [List.length_cons, List.range'_succ, List.map_cons, ← ih (n + 1)]
    rfl

/-- No name comes twice. -/
theorem nodup_runMembers (n : Nat) (scores : List Double) :
    ((runMembers n scores).map (·.field.name)).Nodup := by
  rw [names_runMembers]
  unfold List.Nodup
  rw [List.pairwise_map]
  exact List.Pairwise.imp (fun hne heq => hne (Numeral.ofNat_injective heq)) List.nodup_range'

/-- Members list scores in the order of the runs: as many as there are, each with the number of the
run as its name, and none is named again. -/
structure ListsRuns (scores : List Double) (runs : List (Octets × Value)) : Prop where
  length : runs.length = scores.length
  /-- The member of a run has its number as name and its score as value. -/
  member : ∀ (i : Nat) x, scores[i]? = some x →
    ∃ key, Means key (Numeral.ofNat (i + 1)) ∧ runs[i]? = some (key, valueOfDouble x)
  /-- It is the only member of the name. -/
  once : ∀ (i : Nat) x, scores[i]? = some x →
    valuesOf runs (Numeral.ofNat (i + 1)) = [valueOfDouble x]

/-- The members of a report list its scores. -/
theorem listsRuns (scores : List Double) :
    ListsRuns scores ((runMembers 1 scores).map Filled.member) := by
  have hrun : ∀ (i : Nat) x, scores[i]? = some x →
      (runMembers 1 scores)[i]? = some (.double (Numeral.ofNat (i + 1)) x) := by
    intro i x hx
    rw [runMembers_getElem?, hx, Nat.add_comm 1 i]
    rfl
  refine ⟨?_, fun i x hx => ?_, fun i x hx => ?_⟩
  · rw [List.length_map, length_runMembers]
  · refine ⟨_, means_escaped (Numeral.ofNat (i + 1)), ?_⟩
    rw [List.getElem?_map, hrun i x hx]
    rfl
  · exact Filled.valuesOf_member (nodup_runMembers 1 scores) (List.mem_of_getElem? (hrun i x hx))

/-! ## Reading the summary -/

end Report

namespace Summary

/-- The fields of a summary. -/
def doubleFields : List (Json.Field Double) :=
  [⟨"mean", .double⟩, ⟨"median", .double⟩, ⟨"min", .double⟩, ⟨"max", .double⟩]

/-- The summary of four doubles. -/
def ofDoubles? : List Double → Option Summary
  | [mean, median, least, greatest] => some ⟨mean, median, least, greatest⟩
  | _ => none

/-- There is a field for each value. -/
theorem doubleFields_eq (s : Summary) : doubleFields = s.named.map fun m => ⟨m.1, .double⟩ := rfl

/-- The schema of the fields of a summary. -/
def record : Schema (List Double) := .record doubleFields (by decide)

/-- A summary is what four doubles are read as. -/
theorem read_eq (bs : Octets) : read bs = Schema.readVia record.read ofDoubles? bs := by
  refine Schema.bind_eq_readVia (fun doubles rest => ?_) bs
  rcases doubles with _ | ⟨a, _ | ⟨b, _ | ⟨c, _ | ⟨d, _ | ⟨e, doubles⟩⟩⟩⟩⟩ <;> rfl

/-- The schema of a summary. -/
def schema : Schema Summary := record.via ofDoubles? read read_eq

end Summary

namespace Report

variable {r : Report}

/-- The members of a report have different names. -/
theorem nodup_members (r : Report) : (r.members.map (·.field.name)).Nodup := by
  have hnames : r.members.map (·.field.name) = ["results", "mean", "median", "min", "max"] := rfl
  rw [hnames]
  decide

/-- The runs are the only member of their name. -/
theorem valuesOf_results (r : Report) : valuesOf (r.members.map Filled.member) "results"
    = [.object ((runMembers 1 r.scores).map Filled.member)] :=
  Filled.valuesOf_member r.nodup_members (w := .object "results" (runMembers 1 r.scores))
    List.mem_cons_self

/-- Each value of the summary is the only member of its name. -/
theorem valuesOf_summary {name : String} {x : Double} (h : (name, x) ∈ r.summary.named) :
    valuesOf (r.members.map Filled.member) name = [valueOfDouble x] :=
  Filled.valuesOf_member r.nodup_members (w := .double name x)
    (List.mem_cons_of_mem _ (List.mem_map.2 ⟨(name, x), h, rfl⟩))

/-- A finite double that is restored is shown. -/
theorem shows_double {x : Double} (hfinite : x.isFinite = true)
    (h : readAll readDouble (writeDouble x) = .ok x) : Schema.double.Shows x (valueOfDouble x) :=
  ⟨writeDouble x, if_pos hfinite, h⟩

/-- A double that is not finite is flawed. -/
theorem flawed_double {x : Double} (h : x.isFinite = false) :
    Schema.double.Flawed (valueOfDouble x) := if_neg (by simp [h])

/-- The members show the summary if its values are finite. -/
theorem shows_summary (hrestored : r.summary.Restored)
    (hfinite : ∀ x ∈ r.summary.values, x.isFinite = true) :
    Summary.schema.Shows r.summary (.object (r.members.map Filled.member)) := by
  refine ⟨r.summary.values, rfl, _, rfl, Filled.named_member r.members, rfl, fun i f x hf hx => ?_⟩
  rw [Summary.doubleFields_eq r.summary, List.getElem?_map, Option.map_eq_some_iff] at hf
  obtain ⟨m, hm, rfl⟩ := hf
  have hvalue : x = m.2 := by
    unfold Summary.values at hx
    rw [List.getElem?_map, hm] at hx
    exact (Option.some.inj hx).symm
  subst hvalue
  have hmem := List.mem_of_getElem? hm
  have hx : m.2 ∈ r.summary.values := List.mem_map_of_mem hmem
  exact ⟨_, valuesOf_summary hmem, shows_double (hfinite _ hx) (hrestored _ hx (hfinite _ hx))⟩

/-- The members are flawed if a value of the summary is not finite. -/
theorem flawed_summary (hrestored : r.summary.Restored) {x : Double}
    (hx : x ∈ r.summary.values) (hflaw : x.isFinite = false) :
    Summary.schema.Flawed (.object (r.members.map Filled.member)) := by
  refine ⟨_, rfl, Filled.named_member r.members, fun f hf v hv => ?_, ?_⟩
  · rw [Summary.doubleFields_eq r.summary] at hf
    obtain ⟨m, hm, rfl⟩ := List.mem_map.1 hf
    rw [valuesOf_summary hm] at hv
    cases hv
    have hvalue : m.2 ∈ r.summary.values := List.mem_map_of_mem hm
    cases hfinite : m.2.isFinite with
    | true => exact .inl ⟨_, shows_double hfinite (hrestored _ hvalue hfinite)⟩
    | false => exact .inr (flawed_double hfinite)
  · obtain ⟨m, hm, rfl⟩ := List.mem_map.1 hx
    refine ⟨⟨m.1, .double⟩, ?_, .inr (.inr ⟨_, ?_, flawed_double hflaw⟩)⟩
    · rw [Summary.doubleFields_eq r.summary]
      exact List.mem_map_of_mem hm
    · rw [valuesOf_summary hm]
      rfl

/-- A text tells a report: it is that of an object in which `results` is an object that lists the
runs, and a summary is read from it if its values are finite. -/
structure ToldBy (r : Report) (text : Octets) : Prop where
  /-- The runs are listed in an object, which is the only member of its name. -/
  results : ∃ ms runs, (Value.object ms).WrittenAs text ∧ valuesOf ms "results" = [.object runs]
    ∧ ListsRuns r.scores runs
  /-- The summary is read back if its values are finite. -/
  readsBack : r.summary.Restored → (∀ x ∈ r.summary.values, x.isFinite = true) →
    readAll Summary.read text = .ok r.summary
  /-- It is a mismatch just if one of them is not. -/
  declined : r.summary.Restored →
    (readAll Summary.read text = .error .mismatch ↔ ∃ x ∈ r.summary.values, x.isFinite = false)

/-- What is written for a report tells it, and so it does with blanks behind it. -/
theorem told {rest : Octets} (hrest : skipBlank rest = []) : r.ToldBy (r.write ++ rest) := by
  have hwritten := r.writtenAs_write hrest
  have hreads : r.summary.Restored → (∀ x ∈ r.summary.values, x.isFinite = true) →
      readAll Summary.read (r.write ++ rest) = .ok r.summary :=
    fun hrestored hfinite => Schema.readAll_of_shows (shows_summary hrestored hfinite) hwritten
  refine ⟨⟨_, _, hwritten, r.valuesOf_results, listsRuns r.scores⟩, hreads, fun hrestored => ?_⟩
  constructor
  · intro hmismatch
    refine Classical.byContradiction fun hnone => ?_
    have hfinite : ∀ x ∈ r.summary.values, x.isFinite = true := fun x hx =>
      Bool.not_eq_false _ ▸ fun hflaw => hnone ⟨x, hx, hflaw⟩
    rw [hreads hrestored hfinite] at hmismatch
    cases hmismatch
  · rintro ⟨x, hx, hflaw⟩
    exact Schema.readAll_of_flawed (flawed_summary hrestored hx hflaw) hwritten

/-- One and a half, two and a half, and zero are read back; the infinity need not be. -/
example : Summary.Restored
    ⟨⟨0x3ff8000000000000⟩, ⟨0x4004000000000000⟩, ⟨0⟩, ⟨0x7ff0000000000000⟩⟩ := by
  unfold Summary.Restored
  decide +kernel

/-! ## One line -/

/-- No octet is escaped as a line break. -/
theorem escapeOctet_line (b : UInt8) : 0x0a ∉ escapeOctet b := by
  have hall : ∀ n < 256, 0x0a ∉ escapeOctet (UInt8.ofNat n) := by decide +kernel
  have hb := hall b.toNat b.toNat_lt
  rwa [UInt8.ofNat_toNat] at hb

/-- A member without a line break in its value has none. -/
theorem writeMember_line (name : String) {value : Octets} (h : 0x0a ∉ value) :
    0x0a ∉ writeMember name value := by
  have hname : 0x0a ∉ writeText name := by
    unfold writeText
    rw [List.cons_append, List.mem_cons, List.mem_append, List.mem_flatMap, not_or, not_or]
    refine ⟨by decide, fun ⟨b, _, hb⟩ => escapeOctet_line b hb, by decide⟩
  unfold writeMember
  rw [List.mem_append, List.mem_cons, not_or, not_or]
  exact ⟨hname, by decide, h⟩

/-- An object without a line break in its values has none. -/
theorem writeObject_line {members : List (String × Octets)} (h : ∀ m ∈ members, 0x0a ∉ m.2) :
    0x0a ∉ writeObject members := by
  have hjoin : 0x0a ∉ joinParts (members.map fun m => writeMember m.1 m.2) := by
    induction members with
    | nil => exact List.not_mem_nil
    | cons m rest ih =>
      obtain ⟨hm, hrest⟩ := List.forall_mem_cons.1 h
      have hfirst := writeMember_line m.1 hm
      cases rest with
      | nil => exact hfirst
      | cons n rest =>
        rw [List.map_cons, List.map_cons, joinParts, List.mem_append, List.mem_cons, not_or, not_or]
        exact ⟨hfirst, by decide, ih hrest⟩
  unfold writeObject
  rw [List.cons_append, List.mem_cons, List.mem_append, not_or, not_or]
  exact ⟨by decide, hjoin, by decide⟩

/-- A double is written without a line break. -/
theorem writeDouble_line (x : Double) : 0x0a ∉ writeDouble x := by
  cases hfinite : x.isFinite with
  | true => exact fun hmem => absurd ((isNumeral_writeDouble hfinite).isNumeric _ hmem) (by decide)
  | false =>
    rw [writeDouble_of_not_isFinite hfinite]
    decide

/-- A report is written without a line break. -/
theorem write_line (r : Report) : 0x0a ∉ r.write := by
  have hruns : ∀ n, ∀ m ∈ numbered n r.scores, 0x0a ∉ m.2 := by
    intro n
    induction r.scores generalizing n with
    | nil => exact fun _ hm => absurd hm List.not_mem_nil
    | cons x rest ih => exact List.forall_mem_cons.2 ⟨writeDouble_line x, ih (n + 1)⟩
  refine writeObject_line (List.forall_mem_cons.2 ⟨writeObject_line (hruns 1), fun m hm => ?_⟩)
  obtain ⟨named, -, rfl⟩ := List.mem_map.1
    (show m ∈ r.summary.named.map fun m => (m.1, writeDouble m.2) from hm)
  exact writeDouble_line named.2

/-! ## The name of the file -/

/-- The whole part of a double is within the signed 64-bit range. -/
theorem truncated_range (x : Double) :
    -0x8000000000000000 ≤ x.truncated ∧ x.truncated ≤ 0x7fffffffffffffff := by
  unfold Double.truncated Double.truncatedIn
  split
  · decide
  · split
    · split <;> decide
    · omega

/-- A numeral of two digits at most has two characters when it is filled up. -/
theorem toList_padded {n : Nat} (h : n < 100) :
    ((Numeral.padded 2 n).toList.length = 2) ∧ ∀ c ∈ (Numeral.padded 2 n).toList, c.isDigit :=
  ⟨Numeral.length_padded (by decide) h, Numeral.isDigit_padded 2 n⟩

/-- A numeral of the signed 64-bit range has twenty characters at most. -/
theorem length_ofInt {i : Int} (hleast : -0x8000000000000000 ≤ i)
    (hgreatest : i ≤ 0x7fffffffffffffff) : (Numeral.ofInt i).toList.length ≤ 20 := by
  have hdigits : ∀ n < 10 ^ 19, (Numeral.ofNat n).toList.length ≤ 19 := by
    intro n hn
    unfold Numeral.ofNat
    rw [String.toList_ofList]
    exact (Nat.length_toDigits_le_iff (by decide) (by decide)).2 hn
  cases i with
  | ofNat n =>
    have hn : (n : Int) ≤ 0x7fffffffffffffff := hgreatest
    exact Nat.le_succ_of_le (hdigits n (by omega))
  | negSucc n =>
    have hlength := hdigits (n + 1) (by omega)
    have hsign : "-".toList.length = 1 := rfl
    unfold Numeral.ofInt
    dsimp only
    rw [String.toList_append, List.length_append]
    omega

/-- The parts of a moment that exists have two digits at most. -/
theorem parts_of_isValid {moment : Moment} (h : moment.isValid = true) :
    moment.month < 100 ∧ moment.day < 100 ∧ moment.hour < 100 ∧ moment.minute < 100 := by
  have hdays : ∀ year, Moment.daysIn year moment.month ≤ 31
      ∧ (12 < moment.month → Moment.daysIn year moment.month = 0) := by
    intro year
    unfold Moment.daysIn
    split
    · split <;> omega
    · split
      · omega
      · split <;> omega
  unfold Moment.isValid at h
  simp only [Bool.and_eq_true, decide_eq_true_iff] at h
  obtain ⟨hle, hzero⟩ := hdays moment.year
  have hmonth : moment.month ≤ 12 := by
    refine Nat.le_of_not_lt fun hlt => ?_
    have := hzero hlt
    omega
  omega

/-- The name of a report has at least six characters and at most thirty-four; each is a digit, a
minus sign, or one of those in between. -/
theorem toList_fileName (r : Report) {moment : Moment} (h : moment.isValid = true) :
    6 ≤ (r.fileName moment).toList.length ∧ (r.fileName moment).toList.length ≤ 34
      ∧ ∀ c ∈ (r.fileName moment).toList, c.isDigit ∨ c ∈ "-.json_".toList := by
  obtain ⟨hmonth, hday, hhour, hminute⟩ := parts_of_isValid h
  obtain ⟨hmonth', hmonths⟩ := toList_padded hmonth
  obtain ⟨hday', hdays⟩ := toList_padded hday
  obtain ⟨hhour', hhours⟩ := toList_padded hhour
  obtain ⟨hminute', hminutes⟩ := toList_padded hminute
  have hmean := length_ofInt (truncated_range r.summary.mean).1 (truncated_range r.summary.mean).2
  have hmeans := Numeral.isDigit_ofInt r.summary.mean.truncated
  have hlabel : ".json_".toList.length = 6 := by decide
  have hmarks : (".json_".toList.all fun c => "-.json_".toList.contains c) = true := by decide
  unfold fileName
  simp only [String.toList_append, List.length_append]
  refine ⟨by omega, by omega, ?_⟩
  simp only [List.forall_mem_append]
  refine ⟨⟨⟨⟨⟨?_, ?_⟩, ?_⟩, ?_⟩, ?_⟩, ?_⟩
  · exact fun c hc => .inl (hmonths c hc)
  · exact fun c hc => .inl (hdays c hc)
  · exact fun c hc => .inl (hhours c hc)
  · exact fun c hc => .inl (hminutes c hc)
  · exact fun c hc => .inr (List.contains_iff_mem.1 (List.all_eq_true.1 hmarks c hc))
  · exact fun c hc => (hmeans c hc).imp_right fun hminus => by rw [hminus]; decide

/-- The name of a report is one of a file in the directory, short, and without a NUL. -/
theorem fileName_direct (r : Report) {moment : Moment} (h : moment.isValid = true) :
    Files.Direct (r.fileName moment) ∧ '\x00' ∉ (r.fileName moment).toList
      ∧ (r.fileName moment).utf8ByteSize ≤ Files.nameLimit := by
  obtain ⟨hleast, hgreatest, hchars⟩ := r.toList_fileName h
  have hother : ∀ c, c.isDigit = false → c ∉ "-.json_".toList → c ∉ (r.fileName moment).toList := by
    intro c hdigit hmark hc
    rcases hchars c hc with hc | hc
    · rw [hdigit] at hc
      cases hc
    · exact hmark hc
  have hlong : ∀ s : String, s.toList.length < 6 → r.fileName moment ≠ s := by
    rintro s hs rfl
    omega
  refine ⟨⟨hother _ (by decide) (by decide), hlong _ (by decide), hlong _ (by decide),
    hlong _ (by decide)⟩, hother _ (by decide) (by decide), ?_⟩
  have hlower : ∀ c ∈ (r.fileName moment).toList, c.toNat < 128 := by
    intro c hc
    rcases hchars c hc with hc | hc
    · have := Numeral.toNat_of_isDigit hc
      omega
    · have hmarks : ("-.json_".toList.all fun c => c.toNat < 128) = true := by decide
      exact of_decide_eq_true (List.all_eq_true.1 hmarks c hc)
  rw [Octets.utf8ByteSize_of_lt hlower]
  exact Nat.le_trans hgreatest (by decide)

/-! ## Saving -/

variable {directory : String} {moment : Moment} {fs : Files}

/-- Where a report is saved. -/
def place (r : Report) (directory : String) (moment : Moment) : Location :=
  (Files.place directory).child (r.fileName moment)

/-- A report can be saved in a directory at a moment. -/
structure Writable (r : Report) (directory : String) (moment : Moment) (fs : Files) : Prop where
  /-- The moment exists. -/
  isValid : moment.isValid = true
  /-- The directory is there or can be made. -/
  made : (fs.makeDirectories directory).1 = .ok ()
  /-- The path is not too long. -/
  short : (Files.join directory (r.fileName moment)).utf8ByteSize ≤ Files.pathLimit
  /-- No directory has the name of the file. -/
  free : (fs.makeDirectories directory).2.node? (r.place directory moment) ≠ some .directory

/-- A report has been saved in a directory: the path is given, the file there is one line that tells
the report, and nothing else has changed but that the directory is there. -/
structure SavedTo (r : Report) (directory : String) (moment : Moment) (fs fs' : Files) : Prop where
  /-- The path is the name of the report in the directory. -/
  saved : r.save directory moment fs = (.ok (Files.join directory (r.fileName moment)), fs')
  /-- The file is one line and nothing else, whatever stood there before. -/
  line : ∃ text, 0x0a ∉ text ∧ r.ToldBy text
    ∧ fs'.read (Files.join directory (r.fileName moment)) = .ok (text ++ [0x0a])
  /-- With the line break it tells the report too. -/
  told : ∀ text, fs'.read (Files.join directory (r.fileName moment)) = .ok text → r.ToldBy text
  /-- Everything else is as it was once the directory had been made. -/
  others : ∀ l, l ≠ r.place directory moment →
    fs'.node? l = (fs.makeDirectories directory).2.node? l

/-- Where a report can be saved, its name leads to its place. -/
theorem Writable.locate (h : r.Writable directory moment fs) :
    (fs.makeDirectories directory).2.locate (Files.join directory (r.fileName moment))
      = .ok (r.place directory moment) := by
  obtain ⟨hdirect, hnul, hshort⟩ := r.fileName_direct h.isValid
  exact Files.locate_join_of_short (Files.makeDirectories_opens h.made) hdirect hshort
    (Files.pathFault?_join (Files.makeDirectories_path h.made) hnul hdirect.ne h.short)

/-- A report is saved where it can be. -/
theorem savedTo_of_writable (h : r.Writable directory moment fs) :
    ∃ fs', r.SavedTo directory moment fs fs' := by
  obtain ⟨hdirect, -, -⟩ := r.fileName_direct h.isValid
  have hlocate := h.locate
  obtain ⟨fs', hwrite⟩ : ∃ fs', (fs.makeDirectories directory).2.write
      (Files.join directory (r.fileName moment)) (r.write ++ [0x0a]) = .ok fs' :=
    Files.write_isOk_iff.2 ⟨_, hlocate, h.free, hdirect.namesDirectory_join directory⟩
  have hread := Files.read_of_write hwrite
  refine ⟨fs', ?_, ⟨r.write, r.write_line, ?_, hread⟩, fun text htext => ?_, fun l hl => ?_⟩
  · have hmade : fs.makeDirectories directory = (.ok (), (fs.makeDirectories directory).2) :=
      Prod.ext h.made rfl
    unfold save
    rw [hmade]
    dsimp only
    rw [hwrite]
  · have htold : r.ToldBy (r.write ++ []) := r.told rfl
    rwa [List.append_nil] at htold
  · rw [hread] at htext
    cases htext
    exact r.told rfl
  · obtain ⟨l', program, hlocate', hplain, -, rfl⟩ := Files.write_eq_ok hwrite
    rw [hlocate] at hlocate'
    cases hlocate'
    rw [Files.node?_put (Files.ne_here_of_node? hplain), if_neg hl]

/-- The report on scores is saved wherever it can be, and it is read back. -/
theorem report_reads_back {scores : List Double} (hne : scores ≠ []) :
    ∃ r, ofScores? scores = some r ∧ r.scores = scores ∧ Summary.ofScores? scores = some r.summary
      ∧ ∀ directory moment fs, r.Writable directory moment fs →
        ∃ fs', r.SavedTo directory moment fs fs' := by
  have hsummary := Summary.ofScores?_of_ne_nil hne
  refine ⟨⟨scores, _⟩, ?_, rfl, hsummary, fun directory moment fs => savedTo_of_writable⟩
  unfold ofScores?
  rw [hsummary]
  rfl

/-- A day that only leap years have. -/
def leapDay : Moment := ⟨2024, 2, 29, 12, 30, 0⟩

/-- The path of a report in a directory of a short name is not too long. -/
theorem short_results (r : Report) :
    (Files.join "results" (r.fileName leapDay)).utf8ByteSize ≤ Files.pathLimit := by
  obtain ⟨-, -, hshort⟩ := r.fileName_direct (by decide : leapDay.isValid = true)
  have hjoin : Files.join "results" (r.fileName leapDay)
      = "results" ++ "/" ++ r.fileName leapDay := if_neg (by decide +kernel)
  have hfirst : ("results" ++ "/").utf8ByteSize = 8 := by decide +kernel
  have hlimits : Files.nameLimit = 255 ∧ Files.pathLimit = 4095 := ⟨rfl, rfl⟩
  rw [hjoin, String.utf8ByteSize_append]
  omega

/-- Where nothing stands every report can be saved, in a directory that is made for it. -/
theorem writable_results (r : Report) : r.Writable "results" leapDay .empty := by
  have hmade : Files.empty.makeDirectories "results"
      = (.ok (), ⟨[(⟨1, ["results"], rfl⟩, .directory)]⟩) := by
    decide +kernel
  have hplace : Files.place "results" = ⟨1, ["results"], rfl⟩ := by decide +kernel
  refine ⟨by decide, by rw [hmade], r.short_results, ?_⟩
  unfold place
  rw [hmade, hplace, Files.node?_child_of_single]
  exact nofun

/-- Files with one of the name of a report in its directory, which begins as the report is written
and goes on behind it. -/
def stale (r : Report) : Files :=
  ⟨[(r.place "results" leapDay, .file (r.write ++ 0x0a :: Octets.ofText "older") false),
    (⟨1, ["results"], rfl⟩, .directory)]⟩

/-- The directory is among these files already. -/
theorem makeDirectories_stale (r : Report) :
    r.stale.makeDirectories "results" = (.ok (), r.stale) := by
  have hplace : Files.place "results" = ⟨1, ["results"], rfl⟩ := by decide +kernel
  unfold stale place
  rw [hplace]
  rfl

/-- The older file stands in the place of the report. -/
theorem node?_stale (r : Report) : r.stale.node? (r.place "results" leapDay)
    = some (.file (r.write ++ 0x0a :: Octets.ofText "older") false) := by
  have hhere : r.place "results" leapDay ≠ .here := fun heq =>
    Nat.succ_ne_zero (Files.place "results").depth (congrArg Location.depth heq)
  rw [Files.node?, if_neg hhere]
  exact List.lookup_cons_self

/-- A report can be saved over an older file. -/
theorem writable_stale (r : Report) : r.Writable "results" leapDay r.stale := by
  refine ⟨by decide, by rw [makeDirectories_stale], r.short_results, ?_⟩
  rw [makeDirectories_stale, node?_stale]
  exact nofun

/-- The report on three scores in no order is saved where nothing stands, and also over a longer
file, of which nothing is left. -/
theorem report_reads_back_stale :
    ∃ r, ofScores? [⟨0x4008000000000000⟩, ⟨0x3ff8000000000000⟩, ⟨0x4000000000000000⟩] = some r
      ∧ (∃ fs', r.SavedTo "results" leapDay .empty fs')
      ∧ ∃ older fs', r.stale.read (Files.join "results" (r.fileName leapDay)) = .ok older
        ∧ (r.write ++ [0x0a]).length < older.length ∧ r.SavedTo "results" leapDay r.stale fs' := by
  have hne : [(⟨0x4008000000000000⟩ : Double), ⟨0x3ff8000000000000⟩, ⟨0x4000000000000000⟩] ≠ [] :=
    List.cons_ne_nil _ _
  obtain ⟨r, hr, -, -, hsaves⟩ := report_reads_back hne
  obtain ⟨fs', hsaved⟩ := hsaves _ _ _ r.writable_stale
  obtain ⟨hdirect, -, -⟩ := r.fileName_direct (by decide : leapDay.isValid = true)
  have hlocate := r.writable_stale.locate
  rw [makeDirectories_stale] at hlocate
  have hread : r.stale.read (Files.join "results" (r.fileName leapDay))
      = .ok (r.write ++ 0x0a :: Octets.ofText "older") :=
    Files.read_eq_ok_iff.2 ⟨_, false, hlocate, r.node?_stale, hdirect.namesDirectory_join "results"⟩
  have hlength : (Octets.ofText "older").length = 5 := by decide +kernel
  have hlonger : (r.write ++ [0x0a]).length
      < (r.write ++ 0x0a :: Octets.ofText "older").length := by
    simp only [List.length_append, List.length_cons, List.length_nil, hlength]
    omega
  exact ⟨r, hr, hsaves _ _ _ r.writable_results, _, fs', hread, hlonger, hsaved⟩

end Report

end Benchmark

end ChatBoard

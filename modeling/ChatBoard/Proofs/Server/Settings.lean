import ChatBoard.Proofs.Octets
import ChatBoard.Proofs.Text.Unsigned
import ChatBoard.Server.Startup

/-!
# Loading the settings

What counts for a variable depends on its own value alone (`Settings.Counts`): the text that the
value is, or the default where there is no value or no text. The settings are loaded exactly when
the texts of the port and of the delay are numerals within their limits, and then each setting is
what its own variable tells (`Settings.load_eq_ok_iff`). Otherwise the port is blamed if it is
wrong, and the delay only if the port is not (`Settings.load_eq_error_iff`). A server whose settings
are not loaded ends before it looks for the file of its store, so all files stay as they are
(`settings_tell`).
-/

namespace ChatBoard

namespace Settings

/-- The text that counts for a variable, by its value and its default. -/
inductive Counts (default : String) : Option Octets → String → Prop
  | text (t : String) : Counts default (some (Octets.ofText t)) t
  | unset : Counts default none default
  | no_text {value : Octets} (h : ∀ t, Octets.ofText t ≠ value) :
    Counts default (some value) default

/-- The text that counts for a variable is a numeral up to a limit and denotes a number. -/
def CountsAs (default : String) (limit : Nat) (value : Option Octets) (n : Nat) : Prop :=
  ∃ t, Counts default value t ∧ Numeral.Denotes t n ∧ n ≤ limit

/-- A fault is that of a variable whose text is no numeral up to a limit. -/
structure Blames (key default : String) (limit : Nat) (value : Option Octets)
    (fault : SettingsFault) : Prop where
  /-- It tells the variable. -/
  names : fault.key = key
  /-- It tells the text that counts for it. -/
  text : Counts default value fault.value
  /-- It tells the first thing that is wrong with the text. -/
  cause : Numeral.Spoils limit fault.value fault.cause
  /-- Its wording names the variable and quotes the text. -/
  message : fault.message = "Invalid " ++ key ++ " value: " ++ Text.quoted fault.value

/-- The settings that an environment tells: each is what its own variable counts as. -/
structure ToldBy (env : Environment) (c : Settings) : Prop where
  host : Counts "0.0.0.0" (env.lookup "ISUBATA_HOST") c.host
  port : CountsAs "5000" 0xffff (env.lookup "ISUBATA_PORT") c.port
  database : Counts "isubata.db" (env.lookup "ISUBATA_DB_PATH") c.databasePath
  secret : Counts "dev-secret-change-me" (env.lookup "ISUBATA_SESSION_SECRET") c.sessionSecret
  directory : Counts "../public" (env.lookup "ISUBATA_PUBLIC_DIR") c.publicDir
  delay : CountsAs "1000" 0xffffffffffffffff (env.lookup "ISUBATA_FETCH_DELAY_MS") c.fetchDelay

variable {env : Environment} {v : Variable} {limit n : Nat} {t : String} {c : Settings}
  {fault : SettingsFault}

/-- One text counts for a variable. -/
theorem counts_iff : Counts v.default (env.lookup v.key) t ↔ v.text env = t := by
  unfold Variable.text Environment.text?
  cases env.lookup v.key with
  | none => exact ⟨fun h => by cases h; rfl, fun h => h ▸ .unset⟩
  | some value =>
    rw [Option.bind_some]
    cases htext : Octets.toText? value with
    | none =>
      have hno : ∀ t, Octets.ofText t ≠ value := by
        rintro t rfl
        rw [Octets.toText?_ofText] at htext
        cases htext
      constructor
      · intro h
        cases h with
        | text t => exact absurd rfl (hno t)
        | no_text h => rfl
      · intro h
        exact h ▸ .no_text hno
    | some u =>
      obtain rfl := Octets.toText?_eq_some_iff.1 htext
      constructor
      · intro h
        generalize hvalue : some (Octets.ofText u) = found at h
        cases h with
        | text t => exact Octets.ofText_injective (Option.some.inj hvalue)
        | unset => cases hvalue
        | no_text h => exact absurd (Option.some.inj hvalue) (h u)
      · intro h
        exact h ▸ .text u

/-- A variable is read as the number that its text denotes. -/
theorem number_eq_ok_iff :
    v.number limit env = .ok n ↔ CountsAs v.default limit (env.lookup v.key) n := by
  have hcounts : CountsAs v.default limit (env.lookup v.key) n
      ↔ Numeral.readNat limit (v.text env) = .ok n := by
    rw [Numeral.readNat_eq_ok_iff]
    exact ⟨fun ⟨t, ht, h⟩ => (counts_iff.1 ht).symm ▸ h, fun h => ⟨_, counts_iff.2 rfl, h⟩⟩
  rw [hcounts]
  unfold Variable.number
  cases Numeral.readNat limit (v.text env) <;> simp

/-- A variable whose text is no numeral within the limit is blamed. -/
theorem number_eq_error_iff :
    v.number limit env = .error fault ↔ Blames v.key v.default limit (env.lookup v.key) fault := by
  unfold Variable.number
  constructor
  · intro h
    split at h
    · cases h
    next cause hread =>
      cases h
      exact ⟨rfl, counts_iff.2 rfl, Numeral.readNat_eq_error_iff.1 hread, rfl⟩
  · rintro ⟨hkey, htext, hcause, -⟩
    have hread := Numeral.readNat_eq_error_iff.2 hcause
    rw [← counts_iff.1 htext] at hread
    rw [hread]
    dsimp only
    rw [← hkey, counts_iff.1 htext]

/-- The settings are loaded exactly as the environment tells them. -/
theorem load_eq_ok_iff : load env = .ok c ↔ ToldBy env c := by
  unfold load
  constructor
  · intro h
    split at h
    · cases h
    next port hport =>
      split at h
      · cases h
      next delay hdelay =>
        cases h
        have hcounts : ∀ v : Variable, Counts v.default (env.lookup v.key) (v.text env) :=
          fun v => counts_iff.2 rfl
        exact {
          host := hcounts hostVariable
          port := number_eq_ok_iff.1 hport
          database := hcounts databaseVariable
          secret := hcounts secretVariable
          directory := hcounts publicVariable
          delay := number_eq_ok_iff.1 hdelay }
  · intro h
    have hport : portVariable.number portLimit env = .ok c.port := number_eq_ok_iff.2 h.port
    have hdelay : delayVariable.number delayLimit env = .ok c.fetchDelay :=
      number_eq_ok_iff.2 h.delay
    have hhost : hostVariable.text env = c.host := counts_iff.1 h.host
    have hdatabase : databaseVariable.text env = c.databasePath := counts_iff.1 h.database
    have hsecret : secretVariable.text env = c.sessionSecret := counts_iff.1 h.secret
    have hpublic : publicVariable.text env = c.publicDir := counts_iff.1 h.directory
    rw [hport, hdelay, hhost, hdatabase, hsecret, hpublic]

/-- The settings are not loaded where the port is wrong, or it is right and the delay wrong. -/
theorem load_eq_error_iff :
    load env = .error fault
      ↔ Blames "ISUBATA_PORT" "5000" 0xffff (env.lookup "ISUBATA_PORT") fault
        ∨ (∃ port, CountsAs "5000" 0xffff (env.lookup "ISUBATA_PORT") port)
          ∧ Blames "ISUBATA_FETCH_DELAY_MS" "1000" 0xffffffffffffffff
              (env.lookup "ISUBATA_FETCH_DELAY_MS") fault := by
  have hport : ∀ {n}, portVariable.number portLimit env = .ok n
      ↔ CountsAs "5000" 0xffff (env.lookup "ISUBATA_PORT") n := number_eq_ok_iff
  have hportFault : ∀ {f}, portVariable.number portLimit env = .error f
      ↔ Blames "ISUBATA_PORT" "5000" 0xffff (env.lookup "ISUBATA_PORT") f := number_eq_error_iff
  have hdelayFault : ∀ {f}, delayVariable.number delayLimit env = .error f
      ↔ Blames "ISUBATA_FETCH_DELAY_MS" "1000" 0xffffffffffffffff
          (env.lookup "ISUBATA_FETCH_DELAY_MS") f := number_eq_error_iff
  unfold load
  simp only [← hport, ← hportFault, ← hdelayFault]
  cases portVariable.number portLimit env with
  | error f => simp
  | ok port => cases delayVariable.number delayLimit env <;> simp

end Settings

/-- A server whose settings are not loaded ends before it touches a file. -/
theorem Startup.run_of_fault {env : Environment} {fs : Files} {fault : SettingsFault}
    (h : Settings.load (environment env fs) = .error fault) :
    run env fs = ⟨fs, none, some (.settings fault)⟩ := by
  unfold run
  rw [h]

open Settings

/-- What loading the settings from an environment leads to. -/
structure LoadTells (env : Environment) : Prop where
  /-- Only the numbers decide whether the settings are loaded: the texts of the port and of the
  delay are to be numerals within their limits. -/
  succeeds : (∃ c, load env = .ok c)
    ↔ (∃ port, CountsAs "5000" 0xffff (env.lookup "ISUBATA_PORT") port)
      ∧ ∃ delay, CountsAs "1000" 0xffffffffffffffff (env.lookup "ISUBATA_FETCH_DELAY_MS") delay
  /-- Then each setting is what its own variable tells. -/
  told : ∀ c, load env = .ok c ↔ ToldBy env c
  /-- Otherwise the port is blamed if it is wrong, and the delay only if the port is not. -/
  blames : ∀ fault, load env = .error fault
    ↔ Blames "ISUBATA_PORT" "5000" 0xffff (env.lookup "ISUBATA_PORT") fault
      ∨ (∃ port, CountsAs "5000" 0xffff (env.lookup "ISUBATA_PORT") port)
        ∧ Blames "ISUBATA_FETCH_DELAY_MS" "1000" 0xffffffffffffffff
            (env.lookup "ISUBATA_FETCH_DELAY_MS") fault
  /-- A server that has this environment after its environment file ends with the fault, and all
  files are as they were. -/
  ends : ∀ outer fs fault, Startup.environment outer fs = env → load env = .error fault →
    Startup.run outer fs = ⟨fs, none, some (.settings fault)⟩

/-- The settings are loaded from every environment as it tells them, or the first variable that is
wrong ends the server before it touches a file. -/
theorem settings_tell (env : Environment) : LoadTells env where
  told c := load_eq_ok_iff
  blames fault := load_eq_error_iff
  ends outer fs fault henv h := Startup.run_of_fault (henv ▸ h)
  succeeds := by
    constructor
    · rintro ⟨c, h⟩
      have htold := load_eq_ok_iff.1 h
      exact ⟨⟨_, htold.port⟩, _, htold.delay⟩
    · rintro ⟨⟨port, hport⟩, delay, hdelay⟩
      have hportRead : portVariable.number portLimit env = .ok port := number_eq_ok_iff.2 hport
      have hdelayRead : delayVariable.number delayLimit env = .ok delay :=
        number_eq_ok_iff.2 hdelay
      unfold load
      rw [hportRead, hdelayRead]
      exact ⟨_, rfl⟩

/-- A port that is too large before it is malformed. -/
def crowdedPort : Environment := [("ISUBATA_PORT", Octets.ofText "99999x")]

/-- Of two things that are wrong with a port the first one is told, and no file is touched. -/
theorem settings_tell_crowded :
    load crowdedPort = .error ⟨"ISUBATA_PORT", "99999x", .tooLarge⟩
      ∧ Startup.run crowdedPort .empty
        = ⟨.empty, none, some (.settings ⟨"ISUBATA_PORT", "99999x", .tooLarge⟩)⟩ := by
  have hfirst : Numeral.FirstFault 0xffff ("9999".toList ++ '9' :: ['x']) .tooLarge :=
    .tooLarge (by simp) (by decide) (by decide) (by decide)
  have hload : load crowdedPort = .error ⟨"ISUBATA_PORT", "99999x", .tooLarge⟩ :=
    ((settings_tell crowdedPort).blames _).2 (.inl ⟨rfl, .text _, .character hfirst, rfl⟩)
  exact ⟨hload, (settings_tell crowdedPort).ends _ _ _ rfl hload⟩

end ChatBoard

import Retrial.Proofs.Settings.Draft
import Retrial.Proofs.Settings.File
import Retrial.Settings.Flags

/-!
# Which source a setting comes from

Four sources say something about the settings: flags, variables of the environment, a settings file,
and the usual values.  What each of them says is described here without the others: a flag by its
text, a variable by what its text means (`Says`), a file by its draft.  Every setting in force comes
from the highest source that sets it (`Layered`), and a source that does not set it has no part in
it.  The settings so described are the only ones, and they are what is resolved, exactly if they can
be run with (`Flags.resolve_layers`).
-/

namespace Retrial

/-! ### The highest source -/

section Sources

variable {α : Type}

/-- A value comes from the first source that has one, or it is the usual one if none does. -/
inductive FromHighest : List (Option α) → α → α → Prop
  | set (a : α) (sources : List (Option α)) (usual : α) :
      FromHighest (some a :: sources) usual a
  | unset {sources : List (Option α)} {usual a : α} (rest : FromHighest sources usual a) :
      FromHighest (none :: sources) usual a
  | usual (a : α) : FromHighest [] a a

/-- What a variable of the environment says, if its texts have some meaning: the value that is
meant, or nothing if it is not there or means nothing. -/
def Says (e : Environment) (name : String) (Means : String → α → Prop) : Option α → Prop
  | some a => ∃ text, e.get? name = some text ∧ Means text a
  | none => ∀ text, e.get? name = some text → ∀ a, ¬ Means text a

/-- A value comes from a flag, from a variable or from the settings file, the highest one that sets
it, or it is the usual one. -/
def Sourced (e : Environment) (name : String) (Means : String → α → Prop)
    (flag file : Option α) (usual a : α) : Prop :=
  ∃ given, Says e name Means given ∧ FromHighest [flag, given, file] usual a

variable {e : Environment} {name : String} {Means : String → α → Prop} {read : String → Option α}

/-- There is one value that comes from the highest source. -/
lemma fromHighest_iff {sources : List (Option α)} {usual a : α} :
    FromHighest sources usual a ↔ a = (sources.findSome? id).getD usual := by
  constructor
  · intro h
    induction h with
    | set => rfl
    | unset rest ih => exact ih
    | usual => rfl
  · rintro rfl
    induction sources with
    | nil => exact .usual usual
    | cons source sources ih =>
      cases source with
      | none => exact .unset ih
      | some a => exact .set a sources usual

/-- A variable says what is read from it, if what is read is what is meant. -/
lemma says_iff (h : ∀ text a, Means text a ↔ read text = some a) {a? : Option α} :
    Says e name Means a? ↔ a? = (e.get? name).bind read := by
  cases htext : e.get? name with
  | none =>
    cases a? <;> simp [Says, htext]
  | some text =>
    cases a? with
    | none => simp [Says, htext, h, eq_comm, Option.eq_none_iff_forall_ne_some]
    | some a => simp [Says, htext, h, eq_comm]

/-- Where a value comes from, by what is read from the variable. -/
lemma sourced_iff (h : ∀ text a, Means text a ↔ read text = some a) {flag file : Option α}
    {usual a : α} :
    Sourced e name Means flag file usual a ↔
      a = flag.getD (((e.get? name).bind read).getD (file.getD usual)) := by
  unfold Sourced
  simp only [says_iff h, exists_eq_left, fromHighest_iff]
  cases flag <;> cases (e.get? name).bind read <;> cases file <;> rfl

/-- A value that comes from the highest source is the only one. -/
lemma Sourced.unique {flag file : Option α} {usual a a' : α}
    (h : Sourced e name Means flag file usual a)
    (hread : ∀ text a, Means text a ↔ read text = some a)
    (h' : Sourced e name Means flag file usual a') : a = a' :=
  ((sourced_iff hread).mp h).trans ((sourced_iff hread).mp h').symm

end Sources

/-! ### What texts of variables mean -/

/-- Only some words are a yes, in letters of either case; every other text is a no. -/
def MeansTruth (text : String) (b : Bool) : Prop :=
  b = true ↔ Text.lowercaseString text ∈ ["1", "true", "yes", "on", "enabled"]

/-- A number is written in decimal digits, perhaps after a plus sign, and has at most some bits. -/
def MeansNumber (bits : Nat) (text : String) (n : Nat) : Prop :=
  ∃ digits : List Char, (text.toList = digits ∨ text.toList = '+' :: digits) ∧ digits ≠ [] ∧
    (∀ c ∈ digits, c.isDigit = true) ∧ Nat.ofDigitChars 10 digits 0 = n ∧ n < 2 ^ bits

/-- A limit of time is a number of seconds, and none of them lifts it. -/
def MeansLimit (text : String) (limit : Option Nat) : Prop :=
  ∃ n, MeansNumber 64 text n ∧ limit = if n = 0 then none else some n

/-- A truth value is read as what it means. -/
lemma meansTruth_iff (text : String) (b : Bool) :
    MeansTruth text b ↔ (some ∘ saysYes) text = some b := by
  unfold MeansTruth saysYes
  rw [Function.comp_apply, List.contains_eq_mem, Option.some_inj]
  cases b <;> simp

/-- A number is read from its digits. -/
lemma digitsNumber_iff (bits : Nat) (ds : List Char) (n : Nat) :
    (if !ds.isEmpty && ds.all Char.isDigit then
      some (ds.foldl (fun n c => n * 10 + (c.toNat - 48)) 0) |>.filter fun n => n < Nat.pow 2 bits
      else none) = some n ↔
      ds ≠ [] ∧ (∀ c ∈ ds, c.isDigit = true) ∧ Nat.ofDigitChars 10 ds 0 = n ∧ n < 2 ^ bits := by
  have hvalue : ds.foldl (fun n c => n * 10 + (c.toNat - 48)) 0 = Nat.ofDigitChars 10 ds 0 := by
    unfold Nat.ofDigitChars
    simp only [Nat.mul_comm]
    rfl
  have hdigits : (!ds.isEmpty && ds.all Char.isDigit) = true ↔
      ds ≠ [] ∧ ∀ c ∈ ds, c.isDigit = true := by
    simp
  rw [hvalue, ← and_assoc, ← hdigits]
  split_ifs with h
  · simp only [h, true_and, Option.filter_eq_some_iff, Option.some_inj, decide_eq_true_eq]
    exact Iff.rfl
  · simp [h]

/-- A number is read as what it means. -/
lemma meansNumber_iff (bits : Nat) (text : String) (n : Nat) :
    MeansNumber bits text n ↔ plainNat? bits text = some n := by
  unfold MeansNumber plainNat?
  simp only
  split
  · rename_i rest htext
    rw [digitsNumber_iff, htext]
    refine ⟨?_, fun h => ⟨rest, .inr rfl, h⟩⟩
    rintro ⟨digits, rfl | hrest, h⟩
    · -- the sign is no digit
      exact absurd (h.2.1 '+' List.mem_cons_self) (by decide)
    · exact List.cons.inj hrest |>.2 ▸ h
  · rename_i hsign
    rw [digitsNumber_iff]
    refine ⟨?_, fun h => ⟨text.toList, .inl rfl, h⟩⟩
    rintro ⟨digits, htext | htext, h⟩
    · exact htext ▸ h
    · exact absurd htext (hsign digits)

/-- A limit is read as what it means. -/
lemma meansLimit_iff (text : String) (limit : Option Nat) :
    MeansLimit text limit ↔
      (Option.map (fun n => if 0 < n then some n else none) ∘ plainNat? 64) text = some limit := by
  unfold MeansLimit
  simp only [meansNumber_iff, Function.comp_apply, Option.map_eq_some_iff]
  refine exists_congr fun n => and_congr_right fun _ => ?_
  rcases Nat.eq_zero_or_pos n with rfl | hn
  · exact eq_comm
  · rw [if_pos hn, if_neg hn.ne']
    exact eq_comm

/-- A path is the text that is written. -/
lemma meansPath_iff (text : String) (p : Path) :
    p.text = text ↔ (some ∘ Path.mk) text = some p := by
  cases p
  simp [eq_comm]

/-- A text means itself. -/
lemma meansText_iff (text s : String) : s = text ↔ some text = some s := by
  rw [Option.some_inj, eq_comm]

/-! ### The settings in force -/

/-- The limit that is merged is the one that is said, or else the one there is. -/
lemma Overrides.timeoutSecs_applyEngine (o : Overrides) (s : EngineSettings) :
    (o.applyEngine s).timeoutSecs =
      (o.timeoutSecs.map fun n => if 0 < n then some n else none).getD s.timeoutSecs := by
  unfold applyEngine
  cases o.timeoutSecs <;> rfl

namespace Flags

/-- The settings file that counts: the one that a flag names, or else the one that the environment
names, or else the first one that lies where one is looked for. -/
def settingsFile? (f : Flags) (e : Environment) (d : Disk) : Option Path :=
  ((f.settingsFile.or (e.get? "TEST_ORCH_CONFIG")).map Path.mk).or (AppSettings.find? e d)

/-- What the settings file that counts says; without one nothing is said. -/
def FileSays (f : Flags) (e : Environment) (d : Disk) (file : SettingsDraft) : Prop :=
  match f.settingsFile? e d with
  | some p => ∃ text, d.readText p = .ok text ∧
      (SettingsFormat.ofPath p).parseDraft text = .ok file
  | none => file = .empty

/-- Settings of which each one comes from the highest source that sets it.  Only the folder and the
log level have flags, and the tags that are skipped come from the file alone. -/
structure Layered (f : Flags) (e : Environment) (file : SettingsDraft) (s : AppSettings) :
    Prop where
  selfHealing : Sourced e "TEST_ORCH_SELF_HEALING" MeansTruth none file.engine.selfHealing
    false s.engine.selfHealing
  maxFixAttempts : Sourced e "TEST_ORCH_MAX_FIX_ATTEMPTS" (MeansNumber 32) none
    file.engine.maxFixAttempts 3 s.engine.maxFixAttempts
  workers : Sourced e "TEST_ORCH_WORKERS" (MeansNumber 64) none file.engine.workers
    1 s.engine.workers
  timeoutSecs : Sourced e "TEST_ORCH_TIMEOUT" MeansLimit none file.engine.timeoutSecs
    (some 300) s.engine.timeoutSecs
  skipTags : FromHighest [file.engine.skipTags] [] s.engine.skipTags
  dataDir : Sourced e "TEST_ORCH_DATA_DIR" (fun text dir => dir.text = text)
    (f.dataDir.map Path.mk) file.dataDir (AppSettings.default e).dataDir s.dataDir
  logLevel : Sourced e "TEST_ORCH_LOG_LEVEL" (fun text level => level = text)
    f.logLevel file.logLevel "info" s.logLevel

variable {f : Flags} {e : Environment} {d : Disk} {file : SettingsDraft} {s : AppSettings}

/-- There are no two settings of which each one comes from the highest source. -/
lemma Layered.unique {s' : AppSettings} (h : Layered f e file s) (h' : Layered f e file s') :
    s = s' := by
  obtain ⟨⟨_, _, _, _, _⟩, _, _⟩ := s
  obtain ⟨⟨_, _, _, _, _⟩, _, _⟩ := s'
  rw [AppSettings.mk.injEq, EngineSettings.mk.injEq]
  exact ⟨⟨h.selfHealing.unique meansTruth_iff h'.selfHealing,
      h.maxFixAttempts.unique (meansNumber_iff 32) h'.maxFixAttempts,
      h.workers.unique (meansNumber_iff 64) h'.workers,
      h.timeoutSecs.unique meansLimit_iff h'.timeoutSecs,
      (fromHighest_iff.mp h.skipTags).trans (fromHighest_iff.mp h'.skipTags).symm⟩,
    h.dataDir.unique meansPath_iff h'.dataDir, h.logLevel.unique meansText_iff h'.logLevel⟩

/-- The settings merged from all sources have each value from the highest source that sets it. -/
lemma layered_merged : Layered f e file (f.merged e (file.fill (AppSettings.default e))) where
  selfHealing := by
    rw [sourced_iff meansTruth_iff, ← Option.map_eq_bind]
    rfl
  maxFixAttempts := (sourced_iff (meansNumber_iff 32)).mpr rfl
  workers := (sourced_iff (meansNumber_iff 64)).mpr rfl
  timeoutSecs := by
    rw [sourced_iff meansLimit_iff, ← Option.map_bind]
    exact Overrides.timeoutSecs_applyEngine _ _
  skipTags := by
    have hmerged : (f.merged e (file.fill (AppSettings.default e))).engine.skipTags =
        file.engine.skipTags.getD [] := rfl
    rw [fromHighest_iff, hmerged]
    cases file.engine.skipTags <;> rfl
  dataDir := by
    rw [sourced_iff meansPath_iff, ← Option.map_eq_bind]
    rfl
  logLevel := by
    rw [sourced_iff meansText_iff, Option.bind_fun_some]
    rfl

/-- The file that is loaded is the one that counts. -/
lemma fileSettings_eq : f.fileSettings e d =
    match f.settingsFile? e d with
    | some p => AppSettings.load e d p
    | none => .ok (AppSettings.default e) := by
  unfold fileSettings settingsFile? AppSettings.loadDefault
  have hname : (Overrides.ofEnvironment e).settingsFile = e.get? "TEST_ORCH_CONFIG" := rfl
  rw [hname]
  cases f.settingsFile.or (e.get? "TEST_ORCH_CONFIG") <;> rfl

/-- When the file that counts is accepted, it says something, and is loaded as what it says with the
usual values for the rest. -/
lemma exists_fileSays
    (haccepted : ∀ p, f.settingsFile? e d = some p → ∃ s, AppSettings.load e d p = .ok s) :
    ∃ file, FileSays f e d file ∧
      f.fileSettings e d = .ok (file.fill (AppSettings.default e)) := by
  rw [fileSettings_eq]
  unfold FileSays
  cases hfile : f.settingsFile? e d with
  | none => exact ⟨.empty, rfl, rfl⟩
  | some p =>
    obtain ⟨s, hload⟩ := haccepted p hfile
    obtain ⟨text, hread, hparse, -⟩ := AppSettings.load_ok hload
    rw [SettingsFormat.parse_eq rfl] at hparse
    cases hdraft : (SettingsFormat.ofPath p).parseDraft text with
    | error problem =>
      rw [hdraft] at hparse
      cases hparse
    | ok file =>
      rw [hdraft] at hparse
      obtain rfl : file.fill (AppSettings.default e) = s := Except.ok.inj hparse
      exact ⟨file, ⟨text, hread, hdraft⟩, hload⟩

/-- Settings that can be run with are resolved, and others are rejected for their fault. -/
lemma resolve_of_fileSettings (h : f.fileSettings e d = .ok s) :
    f.resolve e d = (f.merged e s).validate.map fun _ => f.merged e s := by
  unfold resolve
  rw [h]
  simp only [bind, Except.bind]
  cases (f.merged e s).validate <;> rfl

/-- Whatever flags, environment and disk are, if the settings file that counts is accepted, or there
is none, then there are settings of which each one comes from the highest source that sets it: a
flag, a variable, the file, the usual value.  There are no others.  They are what is resolved
exactly if they can be run with, and if they cannot their fault is reported. -/
theorem resolve_layers
    (haccepted : ∀ p, f.settingsFile? e d = some p → ∃ s, AppSettings.load e d p = .ok s) :
    ∃ file s, FileSays f e d file ∧ Layered f e file s ∧
      (∀ s', Layered f e file s' → s' = s) ∧
      (∀ s', f.resolve e d = .ok s' ↔ s.validate = .ok () ∧ s' = s) ∧
      ∀ problem, s.validate = .error problem → f.resolve e d = .error problem := by
  obtain ⟨file, hfile, hsettings⟩ := exists_fileSays haccepted
  refine ⟨file, f.merged e (file.fill (AppSettings.default e)), hfile, layered_merged,
    fun s' hs' => hs'.unique layered_merged, fun s' => ?_, fun problem hfault => ?_⟩
  · rw [resolve_of_fileSettings hsettings]
    cases (f.merged e (file.fill (AppSettings.default e))).validate with
    | error problem => exact ⟨(nomatch ·), fun h => nomatch h.1⟩
    | ok _ => exact ⟨fun h => ⟨rfl, (Except.ok.inj h).symm⟩, fun h => congrArg Except.ok h.2.symm⟩
  · rw [resolve_of_fileSettings hsettings, hfault]
    rfl

/-- Flags that name a settings file and a folder. -/
def teamFlags : Flags := ⟨some "team.yaml", some "flagged", none, 0⟩

/-- An environment with a number that cannot be read, with a limit that is lifted, with a word that
is not a yes, and with another settings file.  The platform finds folders that no variable names. -/
def teamEnvironment : Environment :=
  { Environment.ofList [("TEST_ORCH_CONFIG", "other.yaml"), ("TEST_ORCH_WORKERS", "many"),
      ("TEST_ORCH_MAX_FIX_ATTEMPTS", "+7"), ("TEST_ORCH_TIMEOUT", "0"),
      ("TEST_ORCH_SELF_HEALING", "nope"), ("TEST_ORCH_DATA_DIR", "varied")] with
    home? := some ⟨"/home/team"⟩
    dataHome? := some ⟨"/home/team/.local/share"⟩ }

/-- A disk with a settings file that leaves some settings out. -/
def teamDisk : Disk :=
  (Disk.empty.write ⟨"team.yaml"⟩ (Text.glyphs
    "orchestrator:\n  enable_self_healing: true\n  parallel_workers: 4\n  skip_tags: [slow]\n")).2

/-- All four sources have a part in the settings of a team: the folder is that of the flag, the
limit that of a variable, the number of workers that of the file, the log level the usual one. -/
theorem resolve_layers_team :
    ∃ file s, FileSays teamFlags teamEnvironment teamDisk file ∧
      Layered teamFlags teamEnvironment file s ∧
      teamFlags.resolve teamEnvironment teamDisk = .ok s ∧
      s = ⟨⟨false, 7, 4, none, ["slow"]⟩, ⟨"flagged"⟩, "info"⟩ := by
  have hloaded : AppSettings.load teamEnvironment teamDisk ⟨"team.yaml"⟩ =
      .ok ⟨⟨true, 3, 4, some 300, ["slow"]⟩, ⟨"/home/team/.local/share/test-orchestrator"⟩,
        "info"⟩ := by
    decide +kernel
  have hresolved : teamFlags.resolve teamEnvironment teamDisk =
      .ok ⟨⟨false, 7, 4, none, ["slow"]⟩, ⟨"flagged"⟩, "info"⟩ := by
    decide +kernel
  obtain ⟨file, s, hfile, hs, -, hok, -⟩ :=
    @resolve_layers teamFlags teamEnvironment teamDisk fun p hp => by
      obtain rfl : Path.mk "team.yaml" = p := Option.some.inj hp
      exact ⟨_, hloaded⟩
  have hteam := ((hok _).mp hresolved).2
  exact ⟨file, s, hfile, hs, hteam ▸ hresolved, hteam.symm⟩

end Flags

end Retrial

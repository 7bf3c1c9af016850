import Retrial.Proofs.Json.Conversion
import Retrial.Settings.File

/-!
# What a settings file says

Reading settings puts stand-ins in place of what is left out, after which one cannot tell which of
them the file has set.  A `SettingsDraft` is what the file itself says: for each setting the value
that is written, if one is; that the limit of time is lifted counts as said.  Drafts are read like
settings, only that nothing stands in.  Reading settings is reading the draft and filling it with
the stand-ins (`SettingsFormat.parse_eq`), for both kinds of files, and one is rejected when the
other is.
-/

namespace Retrial

/-! ### Fields that may be left out -/

section Fields

variable {α β : Type}

/-- A field that says nothing if it is left out, in either form of the record. -/
def Json.said (name : String) (c : Codec α) : Field (Option α) where
  name := name
  codec := ⟨c.optional.write, fun s => (c.read s).map fun p => (some p.1, p.2)⟩
  missing := some none
  omitted := some none

/-- A field with a stand-in has what is said, or else the stand-in. -/
lemma Json.said_converts (name : String) (c : Codec α) (standIn : α) :
    (said name c).Converts (defaulted name c standIn) fun a => a.getD standIn where
  name := rfl
  read s := by
    change c.read s = ((c.read s).map fun p => (some p.1, p.2)).map _
    cases c.read s <;> rfl
  missing := rfl
  omitted := rfl

/-- A value of a block document that is said. -/
def Yaml.Reading.said (r : Reading α) : Reading (Option α) := fun root n => (r root n).map some

/-- The value under a name is converted like what it is read from and its stand-in. -/
lemma Yaml.Reading.field_map {r : Reading α} {r' : Reading β} {g : α → β} {root : Node}
    (h : ∀ n, r' root n = (r root n).map g) (standIn : α) (name : String)
    (fs : List (String × Node)) :
    field r' (g standIn) name root fs = (field r standIn name root fs).map g := by
  unfold field
  split
  · rfl
  · exact h _
  · rfl

/-- The value under a name is what is said, or else the stand-in. -/
lemma Yaml.Reading.field_said (r : Reading α) (standIn : α) (name : String) (root : Node)
    (fs : List (String × Node)) :
    field r standIn name root fs = (field (said r) none name root fs).map (·.getD standIn) := by
  have hr (n : Node) : r root n = (said r root n).map (·.getD standIn) := by
    unfold said
    cases r root n <;> rfl
  exact field_map hr none name fs

end Fields

/-! ### Drafts of the engine's settings -/

/-- What is said about the engine's settings. -/
structure EngineDraft where
  selfHealing : Option Bool
  maxFixAttempts : Option Nat
  workers : Option Nat
  /-- The limit that is set or lifted. -/
  timeoutSecs : Option (Option Nat)
  skipTags : Option (List String)
deriving DecidableEq, Repr

namespace EngineDraft

/-- Nothing is said. -/
def empty : EngineDraft := ⟨none, none, none, none, none⟩

/-- What is said, with settings that stand in for the rest. -/
def fill (draft : EngineDraft) (s : EngineSettings) : EngineSettings where
  selfHealing := draft.selfHealing.getD s.selfHealing
  maxFixAttempts := draft.maxFixAttempts.getD s.maxFixAttempts
  workers := draft.workers.getD s.workers
  timeoutSecs := draft.timeoutSecs.getD s.timeoutSecs
  skipTags := draft.skipTags.getD s.skipTags

/-- Drafts in records. -/
def codec : Json.Codec EngineDraft :=
  .record [Option Bool, Option Nat, Option Nat, Option (Option Nat), Option (List String)]
    (Json.said "enable_self_healing" .bool,
      Json.said "max_auto_fix_attempts" (.nat 32),
      Json.said "parallel_workers" (.nat 64),
      Json.said "test_timeout_secs" (.optional (.nat 64)),
      Json.said "skip_tags" (.list .string), ())
    (fun s => (s.selfHealing, s.maxFixAttempts, s.workers, s.timeoutSecs, s.skipTags, ()))
    (fun (selfHealing, maxFixAttempts, workers, timeoutSecs, skipTags, ()) =>
      ⟨selfHealing, maxFixAttempts, workers, timeoutSecs, skipTags⟩)

open Yaml.Reading (field said) in
/-- Drafts in block documents. -/
def reading : Yaml.Reading EngineDraft := fun root n => do
  let fs ← Yaml.Reading.fields root n
  let selfHealing ← field (said .bool) none "enable_self_healing" root fs
  let maxFixAttempts ← field (said (.nat 32)) none "max_auto_fix_attempts" root fs
  let workers ← field (said (.nat 64)) none "parallel_workers" root fs
  let timeoutSecs ← field (said (.optional (.nat 64))) none "test_timeout_secs" root fs
  let skipTags ← field (said (.list .string)) none "skip_tags" root fs
  return ⟨selfHealing, maxFixAttempts, workers, timeoutSecs, skipTags⟩

/-- In a record, the engine's settings are the draft with the usual values for the rest. -/
lemma read_fill (s : List Text.Glyph) :
    EngineSettings.codec.read s =
      (codec.read s).map fun p => (p.1.fill EngineSettings.default, p.2) :=
  Json.read_record_convert (α := EngineDraft) (β := EngineSettings)
    (g := (·.fill EngineSettings.default))
    (.cons (Json.said_converts _ _ _) <| .cons (Json.said_converts _ _ _) <|
      .cons (Json.said_converts _ _ _) <| .cons (Json.said_converts _ _ _) <|
      .cons (Json.said_converts _ _ _) .nil)
    (fun _ => rfl) s

/-- In a block document they are, too. -/
lemma reading_fill (root n : Yaml.Node) :
    EngineSettings.reading root n = (reading root n).map (·.fill EngineSettings.default) := by
  unfold EngineSettings.reading reading
  simp only [Yaml.Reading.field_said .bool, Yaml.Reading.field_said (.nat _),
    Yaml.Reading.field_said (.optional _), Yaml.Reading.field_said (.list _),
    Option.bind_eq_bind, Option.bind_map, Option.map_bind, Function.comp_def]
  rfl

end EngineDraft

/-! ### Drafts of the application's settings -/

/-- What is said about the application's settings. -/
structure SettingsDraft where
  engine : EngineDraft
  dataDir : Option Path
  logLevel : Option String
deriving DecidableEq, Repr

namespace SettingsDraft

/-- Nothing is said. -/
def empty : SettingsDraft := ⟨.empty, none, none⟩

/-- What is said, with settings that stand in for the rest. -/
def fill (draft : SettingsDraft) (s : AppSettings) : AppSettings where
  engine := draft.engine.fill s.engine
  dataDir := draft.dataDir.getD s.dataDir
  logLevel := draft.logLevel.getD s.logLevel

/-- Drafts in records. -/
def codec : Json.Codec SettingsDraft :=
  .record [EngineDraft, Option Path, Option String]
    (Json.defaulted "orchestrator" EngineDraft.codec .empty,
      Json.said "data_dir" AppSettings.pathCodec,
      Json.said "log_level" .string, ())
    (fun s => (s.engine, s.dataDir, s.logLevel, ()))
    (fun (engine, dataDir, logLevel, ()) => ⟨engine, dataDir, logLevel⟩)

open Yaml.Reading (field said) in
/-- Drafts in block documents. -/
def reading : Yaml.Reading SettingsDraft := fun root n => do
  let fs ← Yaml.Reading.fields root n
  let engine ← field EngineDraft.reading .empty "orchestrator" root fs
  let dataDir ← field (said .string) none "data_dir" root fs
  let logLevel ← field (said .string) none "log_level" root fs
  return ⟨engine, dataDir.map Path.mk, logLevel⟩

variable {standIn : AppSettings}

/-- In a record, settings are the draft with stand-ins for the rest. -/
lemma read_fill (hengine : standIn.engine = .default) (s : List Text.Glyph) :
    (AppSettings.codec standIn).read s =
      (codec.read s).map fun p => (p.1.fill standIn, p.2) := by
  have horchestrator : (Json.defaulted "orchestrator" EngineDraft.codec .empty).Converts
      (Json.defaulted "orchestrator" EngineSettings.codec standIn.engine)
      (·.fill standIn.engine) := by
    rw [hengine]
    exact ⟨rfl, EngineDraft.read_fill, rfl, rfl⟩
  exact Json.read_record_convert (α := SettingsDraft) (β := AppSettings) (g := (·.fill standIn))
    (.cons horchestrator <| .cons (Json.said_converts _ _ _) <|
      .cons (Json.said_converts _ _ _) .nil)
    (fun _ => rfl) s

/-- In a block document they are, too. -/
lemma reading_fill (hengine : standIn.engine = .default) (root n : Yaml.Node) :
    AppSettings.reading standIn root n = (reading root n).map (·.fill standIn) := by
  have horchestrator (fs : List (String × Yaml.Node)) :
      Yaml.Reading.field EngineSettings.reading standIn.engine "orchestrator" root fs =
        (Yaml.Reading.field EngineDraft.reading .empty "orchestrator" root fs).map
          (·.fill standIn.engine) := by
    rw [hengine]
    exact Yaml.Reading.field_map (EngineDraft.reading_fill root) .empty _ fs
  have hpath (dataDir : Option String) :
      Path.mk (dataDir.getD standIn.dataDir.text) = (dataDir.map Path.mk).getD standIn.dataDir := by
    cases dataDir <;> rfl
  unfold AppSettings.reading reading
  simp only [horchestrator, Yaml.Reading.field_said .string, Option.bind_eq_bind, Option.bind_map,
    Option.map_bind, Function.comp_def, hpath]
  rfl

end SettingsDraft

/-! ### Drafts of files -/

namespace SettingsFormat

/-- Reads what a file of a kind says. -/
def parseDraft (format : SettingsFormat) (s : String) : Outcome SettingsDraft :=
  match format with
  | block =>
    match (Yaml.root? s).bind fun root => SettingsDraft.reading root root with
    | some draft => .ok draft
    | none => .error [.yaml]
  | record => Problem.ofJson (Json.decode SettingsDraft.codec.read (Text.glyphs s))

/-- Settings are read as what the file says, with stand-ins for the rest, and rejected when that is
rejected. -/
theorem parse_eq {standIn : AppSettings} (hengine : standIn.engine = .default)
    (format : SettingsFormat) (s : String) :
    format.parse standIn s = (format.parseDraft s).map (·.fill standIn) := by
  cases format with
  | block =>
    unfold parse parseDraft AppSettings.ofBlock?
    cases Yaml.root? s with
    | none => rfl
    | some root =>
      simp only [Option.bind_some, SettingsDraft.reading_fill hengine]
      cases SettingsDraft.reading root root <;> rfl
  | record =>
    unfold parse parseDraft
    have hdecode (content : List Text.Glyph) :
        Json.decode (AppSettings.codec standIn).read content =
          (Json.decode SettingsDraft.codec.read content).map (·.fill standIn) :=
      Json.decode_convert (SettingsDraft.read_fill hengine) content
    simp only [hdecode]
    cases Json.decode SettingsDraft.codec.read (Text.glyphs s) <;> rfl

/-- A limit that is lifted is said; a limit that is left out is not. -/
example : block.parseDraft "orchestrator:\n  test_timeout_secs: null\n  parallel_workers: 2\n" =
    .ok ⟨⟨none, none, some 2, some none, none⟩, none, none⟩ := by
  decide +kernel

end SettingsFormat

end Retrial

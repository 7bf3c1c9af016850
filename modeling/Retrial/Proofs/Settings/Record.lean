import Retrial.Proofs.Result.Record
import Retrial.Settings.App

/-!
# Settings in records

Settings are read back from their text field for field, whatever stands in for what is left out
(`AppSettings.decode_prettyText`): all fields are written, also the limit of time that is lifted,
which comes back as lifted and not as the usual one.  All that is asked of settings is that their
numbers are of the sizes that are read.
-/

namespace Retrial

open Json (Reads Value)

/-- A number that may be absent is read back. -/
lemma Json.reads_optional_nat {bits : Nat} (hbits : bits ≤ 64) {n : Option Nat}
    (h : ∀ m ∈ n, m < 2 ^ bits) :
    Reads ((Codec.nat bits).optional).read ((Codec.nat bits).optional.write n) n := by
  cases n with
  | none => exact Json.reads_none _
  | some m =>
    refine Json.reads_some (Json.reads_nat hbits (h m rfl)) fun cs hcs => ?_
    -- the number starts with a digit
    unfold Codec.nat Value.nat Json.Spells at hcs
    obtain ⟨c, ds, hdigits, hc⟩ := Json.exists_toDigits_cons m
    rw [hcs, Json.toList_toString_natCast, hdigits]
    refine ⟨fun hn => ?_, List.cons_ne_nil c ds⟩
    obtain rfl : c = 'n' := Option.some.inj hn
    revert hc
    decide

/-- A list of texts is read back. -/
lemma Json.reads_strings (ts : List String) :
    Reads (Codec.string.list).read (Codec.string.list.write ts) ts := by
  refine Json.reads_list ?_
  rw [List.forall₂_map_left_iff]
  exact List.forall₂_same.mpr fun t _ => Json.reads_string t

/-- The engine's settings can be read back: their numbers are of the sizes that are read. -/
structure EngineSettings.Readable (s : EngineSettings) : Prop where
  maxFixAttempts : s.maxFixAttempts < 2 ^ 32
  workers : s.workers < 2 ^ 64
  timeoutSecs : ∀ secs ∈ s.timeoutSecs, secs < 2 ^ 64

instance (s : EngineSettings) : Decidable s.Readable :=
  decidable_of_iff
    (s.maxFixAttempts < 2 ^ 32 ∧ s.workers < 2 ^ 64 ∧ ∀ secs ∈ s.timeoutSecs, secs < 2 ^ 64)
    ⟨fun h => ⟨h.1, h.2.1, h.2.2⟩, fun h => ⟨h.maxFixAttempts, h.workers, h.timeoutSecs⟩⟩

/-- The engine's settings are read back. -/
lemma EngineSettings.reads {s : EngineSettings} (h : s.Readable) :
    Reads EngineSettings.codec.read (EngineSettings.codec.write s) s :=
  @Json.reads_structure EngineSettings [Bool, Nat, Nat, Option Nat, List String] _ _ _ s
    (s.selfHealing, s.maxFixAttempts, s.workers, s.timeoutSecs, s.skipTags, ())
    ⟨Json.reads_bool _, Json.reads_nat (by norm_num) h.maxFixAttempts,
      Json.reads_nat le_rfl h.workers, Json.reads_optional_nat le_rfl h.timeoutSecs,
      Json.reads_strings _, trivial⟩
    (by decide)

namespace AppSettings

/-- Paths are read back. -/
lemma reads_path (p : Path) : Reads pathCodec.read (pathCodec.write p) p :=
  (Json.reads_string p.text).map Path.mk

/-- Settings are read back, whatever stands in for what is left out. -/
lemma reads {s : AppSettings} (h : s.engine.Readable) (standIn : AppSettings) :
    Reads (codec standIn).read ((codec s).write s) s :=
  @Json.reads_structure AppSettings [EngineSettings, Path, String] _ _ _ s
    (s.engine, s.dataDir, s.logLevel, ())
    ⟨EngineSettings.reads h, reads_path _, Json.reads_string _, trivial⟩
    (show ["orchestrator", "data_dir", "log_level"].Nodup by decide)

/-- The text of settings is read as the settings. -/
theorem decode_prettyText {s : AppSettings} (h : s.engine.Readable) (standIn : AppSettings) :
    Json.decode (codec standIn).read (Text.glyphs ((codec s).prettyText s)) = .ok s := by
  rw [Json.glyphs_prettyText]
  exact Json.decode_spelled (reads h standIn) (Json.spells_prettyAt 0 _)

end AppSettings

end Retrial

import Retrial.Proofs.Disk.Tree
import Retrial.Proofs.Settings.Record
import Retrial.Settings.File

/-!
# Settings that are kept in a file

Settings are written as they are, and looked at when they are loaded.  So settings that have been
kept in a file are loaded from it as the same settings, if they can be run with, and rejected for
their fault if they cannot (`AppSettings.load_save`).  The kind of the file is worked out from its
path each time, and comes out the same; from a record the settings are always read back, and from a
block document as far as reading blocks undoes writing them.
-/

namespace Retrial

open Text (glyphs)

namespace AppSettings

variable {d : Disk} {p : Path} {s : AppSettings} {e : Environment}

/-- What a successful save has done: it has made the folder the file lies in, and written it. -/
lemma save_ok (h : (s.save p d).1 = .ok ()) :
    ∃ d₁ : Disk, (d₁.write p (glyphs ((SettingsFormat.ofPath p).render s))).1 = .ok () ∧
      (s.save p d).2 = (d₁.write p (glyphs ((SettingsFormat.ofPath p).render s))).2 := by
  unfold save at h ⊢
  simp only at h ⊢
  split at h
  · cases h
  · refine ⟨_, ?_, rfl⟩
    generalize Disk.write _ p _ = written at h ⊢
    obtain ⟨_ | _, d₂⟩ := written
    · cases h
    · rfl

/-- After a successful save the file has the text of the settings. -/
lemma readText_save (h : (s.save p d).1 = .ok ()) :
    (s.save p d).2.readText p = .ok ((SettingsFormat.ofPath p).render s) := by
  obtain ⟨d₁, hok, hdisk⟩ := save_ok h
  unfold Disk.readText
  rw [hdisk, Disk.read_write hok]
  simp

/-- Settings in a file that can be read are looked at and given. -/
lemma load_of_readText {text : String} (hread : d.readText p = .ok text)
    (hparse : (SettingsFormat.ofPath p).parse (default e) text = .ok s) :
    load e d p = (Problem.during ("Rejected config " ++ p.text) s.validate).map fun _ => s := by
  unfold load
  rw [hread]
  simp only [Problem.ofDisk, Problem.during, hparse, bind, Except.bind]
  cases s.validate <;> rfl

/-- Settings that are loaded are read from the text of the file, and can be run with. -/
lemma load_ok (h : load e d p = .ok s) :
    ∃ text, d.readText p = .ok text ∧
      (SettingsFormat.ofPath p).parse (default e) text = .ok s ∧ s.validate = .ok () := by
  cases hread : d.readText p with
  | error fault =>
    unfold load at h
    rw [hread] at h
    cases h
  | ok text =>
    cases hparse : (SettingsFormat.ofPath p).parse (default e) text with
    | error problem =>
      unfold load at h
      rw [hread] at h
      simp only [Problem.ofDisk, Problem.during, hparse, bind, Except.bind] at h
      cases h
    | ok s' =>
      rw [load_of_readText hread hparse] at h
      cases hvalid : s'.validate with
      | error problem =>
        rw [hvalid] at h
        cases h
      | ok _ =>
        rw [hvalid] at h
        obtain rfl : s' = s := Except.ok.inj h
        exact ⟨text, rfl, hparse, hvalid⟩

/-- The text of settings is read as the settings. -/
lemma parse_render (hs : s.engine.Readable) {standIn : AppSettings} {format : SettingsFormat}
    (hblock : format = .block → ofBlock? standIn s.blockText = some s) :
    format.parse standIn (format.render s) = .ok s := by
  cases format with
  | block =>
    unfold SettingsFormat.parse SettingsFormat.render
    simp only [hblock rfl]
  | record =>
    unfold SettingsFormat.parse SettingsFormat.render
    simp only [decode_prettyText hs]
    rfl

/-- Settings that have been kept in a file are loaded from it exactly if they can be run with, and
then they are the same settings; if they cannot, the fault is reported and nothing is loaded.  This
is so for every path that could be written to, if reading a block document undoes writing it where
the path stands for one. -/
theorem load_save (e : Environment) (hs : s.engine.Readable)
    (hblock : SettingsFormat.ofPath p = .block → ofBlock? (default e) s.blockText = some s)
    (hsaved : (s.save p d).1 = .ok ()) :
    (∀ s', load e (s.save p d).2 p = .ok s' ↔ s.validate = .ok () ∧ s' = s) ∧
      ∀ problem, s.validate = .error problem →
        load e (s.save p d).2 p = .error (.text ("Rejected config " ++ p.text) :: problem) := by
  have hload := load_of_readText (readText_save hsaved) (parse_render hs hblock)
  rw [hload]
  cases s.validate with
  | ok _ =>
    refine ⟨fun s' => ⟨fun h => ⟨rfl, (Except.ok.inj h).symm⟩, ?_⟩, fun problem h => ?_⟩
    · rintro ⟨-, rfl⟩
      rfl
    · cases h
  | error problem =>
    refine ⟨fun s' => ⟨fun h => ?_, fun h => ?_⟩, fun problem' h => ?_⟩
    · cases h
    · cases h.1
    · rw [← Except.error.inj h]
      rfl

/-- Settings that lift the limit of time, with tags of which some need quotes. -/
def unlimited : AppSettings :=
  ⟨⟨true, 5, 4, none, ["slow", "null", "it's"]⟩, ⟨"data dir"⟩, "debug"⟩

/-- The limit of time that is lifted stays lifted, in a block document and in a record. -/
theorem load_save_unlimited :
    unlimited.engine.Readable ∧
      ofBlock? (default (.ofList [])) unlimited.blockText = some unlimited ∧
      ∀ p ∈ [Path.mk "conf/settings.yaml", ⟨"conf/settings.json"⟩],
        (unlimited.save p Disk.empty).1 = .ok () ∧
          load (.ofList []) (unlimited.save p Disk.empty).2 p = .ok unlimited := by
  have hreadable : unlimited.engine.Readable := by decide
  have hblock : ofBlock? (default (.ofList [])) unlimited.blockText = some unlimited := by
    decide +kernel
  have hsaved : ∀ p ∈ [Path.mk "conf/settings.yaml", ⟨"conf/settings.json"⟩],
      (unlimited.save p Disk.empty).1 = .ok () := by
    simp only [List.forall_mem_cons]
    exact ⟨rfl, rfl, fun p hp => by cases hp⟩
  refine ⟨hreadable, hblock, fun p hp => ⟨hsaved p hp, ?_⟩⟩
  exact ((load_save (.ofList []) hreadable (fun _ => hblock) (hsaved p hp)).1 _).mpr ⟨rfl, rfl⟩

end AppSettings

end Retrial

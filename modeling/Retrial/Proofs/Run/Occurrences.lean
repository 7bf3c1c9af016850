import Retrial.Proofs.Pattern.Growth
import Retrial.Proofs.Run.Calls
import Retrial.Proofs.Run.Decisions
import Retrial.Proofs.Run.Feedback
import Retrial.Proofs.Run.Local

/-!
# What a run leaves of the patterns

Two requests of a case count occurrences of a pattern: after every failed attempt the failure is
looked up, which counts if its pattern is known, and the failure that ends the case is entered,
which makes the pattern known if it was not.  The failures looked up are those of the attempts, each
once (`Executed.lookedUp_eq`); one is entered at most, and nothing is looked up after it
(`Executed.ending`).

So the patterns that a run alone leaves can be read off the failures of its attempts and off how the
case ended (`Occurrences`).  A pattern is known under the key that it is kept under, whatever id it
names, and its frequency goes up by its occurrences unless the counter overflows.
-/

namespace Retrial

open PatternStore (enterAll)

/-! ### Calls that enter nothing -/

namespace PatternStore

/-- The pattern after some more occurrences, whenever it was last seen. -/
def counted (n : Nat) (p : Pattern) : Pattern := { p.unseen with frequency := p.frequency.plus n }

variable {b : PatternBook} {calls : List Call} {id : String}

/-- A pattern that differs from another one by occurrences and by when it was last seen. -/
lemma eq_of_unseen_eq_counted {p p' : Pattern} {n : Nat} (h : p'.unseen = counted n p) :
    p' = { p with frequency := p.frequency.plus n, lastSeen := p'.lastSeen } := by
  simp only [Pattern.unseen, counted, Pattern.mk.injEq, true_and] at h
  obtain ⟨hid, hkind, hsignature, hfrequency, htests, hfix⟩ := h
  simp [← hid, ← hkind, ← hsignature, ← hfrequency, ← htests, ← hfix]

end PatternStore

/-! ### Failures of a log -/

/-- The failure that an exchange decides an attempt with. -/
def Exchange.failure? (e : Exchange) : Option Failure :=
  e.outcome?.bind fun
    | .ok _ => none
    | .error f => some f

/-- The failures of the attempts in a log, in their order. -/
def failuresIn (log : List Exchange) : List Failure := log.filterMap Exchange.failure?

/-- The failures that a log looks up, in their order. -/
def lookedUpIn (log : List Exchange) : List Failure :=
  (log.filterMap Exchange.lookUp?).map Prod.fst

/-- How many of some failures belong to a pattern id. -/
def occurrencesOf (id : String) (failures : List Failure) : Nat :=
  (failures.map Failure.patternId).count id

/-- A run has failed, and its last attempt was one with a failure of the pattern id. -/
def EndsWith (id : String) (log : List Exchange) (r : Result) : Prop :=
  r.status = .failed ∧ (failuresIn log).getLast?.map Failure.patternId = some id

instance (id : String) (log : List Exchange) (r : Result) : Decidable (EndsWith id log r) :=
  inferInstanceAs (Decidable (_ ∧ _))

/-- How often a run has met a pattern id: once for each attempt that failed with it, and once more
if it has ended with it. -/
def timesMet (id : String) (log : List Exchange) (r : Result) : Nat :=
  occurrencesOf id (failuresIn log) + if EndsWith id log r then 1 else 0

/-- Failures of two logs add up. -/
lemma failuresIn_append (log log' : List Exchange) :
    failuresIn (log ++ log') = failuresIn log ++ failuresIn log' := List.filterMap_append

/-- So do those looked up. -/
lemma lookedUpIn_append (log log' : List Exchange) :
    lookedUpIn (log ++ log') = lookedUpIn log ++ lookedUpIn log' := by
  rw [lookedUpIn, List.filterMap_append, List.map_append]
  rfl

namespace Executor

variable {x : Executor} {c : Case} {a n : Nat} {awaiting : Option String}
  {log round decided : List Exchange} {outcome : Except Failure Unit} {f : Failure} {turn : Turn}
  {r res : Result} {retried : Bool}

/-- A round has the failure of its attempt, if it failed. -/
lemma Round.failures_eq (h : Round x c a awaiting round outcome turn) :
    failuresIn round = [outcome].filterMap fun
      | .ok _ => none
      | .error f => some f := by
  rw [← h.outcomes_eq, List.filterMap_filterMap]
  rfl

/-- A round looks the failure of its attempt up, if it failed, and no other. -/
lemma Round.lookedUp_eq (h : Round x c a awaiting round outcome turn) :
    lookedUpIn round = failuresIn round := by
  rw [h.failures_eq]
  cases outcome with
  | ok u =>
    rw [lookedUpIn, h.quiet.1]
    rfl
  | error f =>
    obtain ⟨found, hfound⟩ := h.ruling.lookUps
    rw [lookedUpIn, hfound]
    rfl

/-- A round that ends the case with its failure enters this failure last, and none before. -/
lemma Round.exists_entry (h : Round x c a awaiting round (.error f) .failed) :
    ∃ init now p, round = init ++ [⟨.now, now⟩, ⟨.record c.id f, p⟩] ∧ recorded init = [] := by
  obtain ⟨ha, hd⟩ := h
  cases hd with
  | @failed _ found asked hf hh now p =>
    refine ⟨_, now, p, (List.append_assoc _ _ _).symm, ?_⟩
    simp [ha.recorded_eq, recorded_feedbackLog, hf.recorded_eq, hh.recorded_eq]

/-- How the log of a case ends that has failed with an attempt: the failure of the last attempt is
entered, and none was entered before. -/
def Entered (c : Case) (log : List Exchange) : Prop :=
  ∃ init now f p, log = init ++ [⟨.now, now⟩, ⟨.record c.id f, p⟩] ∧ recorded init = [] ∧
    (failuresIn log).getLast? = some f

/-- What goes before and enters nothing does not change how a log ends. -/
lemma Entered.append {rest : List Exchange} (h : Entered c rest) (hnone : recorded round = []) :
    Entered c (round ++ rest) := by
  obtain ⟨init, now, f, p, hlog, hinit, hlast⟩ := h
  refine ⟨round ++ init, now, f, p, ?_, ?_, ?_⟩
  · rw [hlog, List.append_assoc]
  · rw [recorded_append, hnone, hinit, List.append_nil]
  · rw [failuresIn_append, List.getLast?_append, hlast]
    rfl

/-- The failures looked up along a course are those of its attempts. -/
lemma Course.lookedUp_eq (h : Course x c n r retried awaiting log res) :
    lookedUpIn log = failuresIn log := by
  induction h using Course.byRounds with
  | passed hround now _ => exact hround.lookedUp_eq
  | retried hround hr _ ih => rw [lookedUpIn_append, failuresIn_append, hround.lookedUp_eq, ih]
  | healed hround hr _ ih => rw [lookedUpIn_append, failuresIn_append, hround.lookedUp_eq, ih]
  | failed hround now _ => exact hround.lookedUp_eq

/-- A course that fails enters its last failure at its end. -/
lemma Course.entered (h : Course x c n r retried awaiting log res) (hres : res.status = .failed) :
    Entered c log := by
  induction h using Course.byRounds with
  | passed hround now _ =>
    simp only [Result.success, Result.finish_status] at hres
    split_ifs at hres
  | retried hround hr _ ih => exact (ih hres).append (hround.recorded_eq.1 rfl)
  | healed hround hr _ ih => exact (ih hres).append (hround.recorded_eq.1 rfl)
  | failed hround now _ =>
    obtain ⟨init, now, p, hlog, hinit⟩ := hround.exists_entry
    exact ⟨init, now, _, p, hlog, hinit, by rw [hround.failures_eq]; rfl⟩

/-- The failures looked up in a run are those of its attempts. -/
lemma Executed.lookedUp_eq (h : Executed x c log res) : lookedUpIn log = failuresIn log := by
  cases h with
  | skipped => rfl
  | unloadable => rfl
  | ran hs start hr => exact hr.lookedUp_eq

/-- A run enters its last failure at its end if it fails with an attempt, and else nothing. -/
lemma Executed.ending (h : Executed x c log res) :
    (res.status = .failed ∧ Entered c log) ∨
      (recorded log = [] ∧ ∀ id, ¬EndsWith id log res) := by
  cases h with
  | skipped hs start finish => exact .inr ⟨rfl, fun id h => by cases h.1⟩
  | unloadable hs start now fault => exact .inr ⟨rfl, fun id h => by cases h.2⟩
  | @ran _ start rest _ hr =>
    rcases hr.recorded_cases with ⟨hfailed, -⟩ | ⟨hne, hnone⟩
    · have hbefore : recorded [⟨.now, start⟩, ⟨.load c, .ok ()⟩] = [] := rfl
      exact .inl ⟨hfailed, (hr.entered hfailed).append hbefore⟩
    · exact .inr ⟨by simpa [Request.entry?] using hnone, fun id h => hne h.1⟩

end Executor

/-! ### The patterns -/

/-- A book after some failures were looked up in another one: known patterns have counted them,
unknown ones are unknown, and what none of them belongs to is as it was. -/
structure Counted (failures : List Failure) (b b' : PatternBook) : Prop where
  counts : ∀ id, (b'.patterns.get? id).map Pattern.unseen =
    (b.patterns.get? id).map (PatternStore.counted (occurrencesOf id failures))
  unchanged : ∀ id, occurrencesOf id failures = 0 → b'.patterns.get? id = b.patterns.get? id

namespace Counted

variable {failures : List Failure} {b b' : PatternBook} {id : String} {p : Pattern}

/-- A pattern that is known counts the failures. -/
lemma known (h : Counted failures b b') (hp : b.patterns.get? id = some p) :
    ∃ p', b'.patterns.get? id = some p' ∧
      p' = { p with
        frequency := p.frequency.plus (occurrencesOf id failures)
        lastSeen := p'.lastSeen } := by
  have hmap := h.counts id
  rw [hp, Option.map_some] at hmap
  obtain ⟨p', hp', hunseen⟩ := Option.map_eq_some_iff.mp hmap
  exact ⟨p', hp', PatternStore.eq_of_unseen_eq_counted hunseen⟩

/-- A pattern that is unknown stays so. -/
lemma unknown (h : Counted failures b b') (hnone : b.patterns.get? id = none) :
    b'.patterns.get? id = none := by
  have hmap := h.counts id
  rwa [hnone, Option.map_none, Option.map_eq_none_iff] at hmap

end Counted

section Calls

variable {log : List Exchange} {calls : List (List PatternStore.Call)} {b : PatternBook}
  {id : String}

end Calls

/-- What a run of a case leaves of the patterns of a book.  A pattern that was known counts the
attempts that failed with it, and once more if the run has ended with it; then, and only then, it
gets the case.  One that was not known is entered exactly if the run has ended with it, as one that
has occurred once and has ended this case.  What no attempt has failed with stays as it was. -/
structure Occurrences (c : Case) (log : List Exchange) (r : Result) (b b' : PatternBook) :
    Prop where
  known : ∀ id p, b.patterns.get? id = some p → ∃ p', b'.patterns.get? id = some p' ∧
    p' = { p with
      frequency := p.frequency.plus (timesMet id log r)
      affectedTests := if EndsWith id log r then p.affectedTests.add c.id else p.affectedTests
      lastSeen := p'.lastSeen }
  unknown : ∀ id, b.patterns.get? id = none →
    (b'.patterns.contains id = true ↔ EndsWith id log r)
  entered : ∀ id p', b.patterns.get? id = none → b'.patterns.get? id = some p' →
    p'.patternId = id ∧ p'.frequency = .ofNat 1 ∧ p'.affectedTests = NameSet.single c.id
  unchanged : ∀ id, occurrencesOf id (failuresIn log) = 0 → b'.patterns.get? id = b.patterns.get? id

namespace Counted

variable {c : Case} {log : List Exchange} {r : Result} {f : Failure} {b b' : PatternBook}

/-- What a run leaves that has failed with an attempt, when its last failure is entered. -/
lemma record (h : Counted (failuresIn log) b b') (hstatus : r.status = .failed)
    (hlast : (failuresIn log).getLast? = some f) (now : Time.Instant) :
    Occurrences c log r b (b'.record now c.id f.message f.trace none).2 := by
  have hends : ∀ id, EndsWith id log r ↔ f.patternId = id := by
    intro id
    simp [EndsWith, hstatus, hlast]
  have hothers : ∀ id, f.patternId ≠ id →
      (b'.record now c.id f.message f.trace none).2.patterns.get? id = b'.patterns.get? id :=
    fun id hid => PatternBook.changesOnly_record.patterns id (Ne.symm hid)
  have hself : (b'.record now c.id f.message f.trace none).2.patterns.get? f.patternId =
      some (b'.recordedPattern now c.id f.message f.trace none) := PatternBook.get?_patterns_record
  rw [PatternBook.recordedPattern_eq, ← Failure.patternId] at hself
  constructor
  case known =>
    intro id p hp
    obtain ⟨p', hp', heq⟩ := h.known hp
    rw [timesMet]
    by_cases hid : f.patternId = id
    · rw [if_pos ((hends id).mpr hid), if_pos ((hends id).mpr hid), ← Counter.plus_plus]
      subst hid
      rw [hp'] at hself
      refine ⟨_, hself, ?_⟩
      rw [heq]
      rfl
    · rw [if_neg (mt (hends id).mp hid), if_neg (mt (hends id).mp hid), hothers id hid]
      exact ⟨p', hp', heq⟩
  case unknown =>
    intro id hnone
    rw [hends, Dict.contains]
    by_cases hid : f.patternId = id
    · subst hid
      rw [hself]
      exact ⟨fun _ => rfl, fun _ => rfl⟩
    · rw [hothers id hid, h.unknown hnone]
      exact ⟨fun hsome => (by cases hsome), fun heq => absurd heq hid⟩
  case entered =>
    intro id p' hnone hp'
    by_cases hid : f.patternId = id
    · subst hid
      rw [hself, h.unknown hnone] at hp'
      obtain rfl := Option.some.inj hp'
      exact ⟨rfl, rfl, rfl⟩
    · rw [hothers id hid, h.unknown hnone] at hp'
      cases hp'
  case unchanged =>
    intro id hzero
    have hmem : f.patternId ∈ (failuresIn log).map Failure.patternId :=
      List.mem_map_of_mem (List.mem_of_getLast? hlast)
    have hid : f.patternId ≠ id := by
      rintro rfl
      exact List.count_eq_zero.mp hzero hmem
    rw [hothers id hid, h.unchanged id hzero]

end Counted

namespace Executor

open Proc (Trace)

end Executor

end Retrial

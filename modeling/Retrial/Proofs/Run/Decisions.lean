import Retrial.Proofs.Pattern.Calls
import Retrial.Proofs.Run.Findings
import Retrial.Run.World

/-!
# What is decided after an attempt

After an attempt that failed a retry comes first, then a fix, then the end.  Which it is depends on
the number of the attempt, on the pattern that is found for its failure and the retries of its
policy, on the settings, and on what the healer answers, and on nothing else (`Ruling`).  So it is
at every attempt of every run (`Decides`).

The two ways to go on draw on the same count of attempts.  A fix may be asked for only while the
attempts that the settings allow last, so there are fewer pleas for one than such attempts
(`Rounds.pleas_length_le`).  A retry needs no attempt left, so it may come long after the last fix
(`exists_retried_after_fix`).
-/

namespace Retrial

namespace Executor

/-- The rules for a round whose attempt, the one numbered `a`, failed with `f`.  The failure is
looked up once, and a policy named if its pattern is found.  Where that policy has a retry for the
attempt the round grants it; where no retry is granted somebody is asked for a fix, if the settings
allow it and somebody is there.  The case goes on with the retry, or with a fix that says
something. -/
structure Ruling (x : Executor) (c : Case) (a : Nat) (f : Failure) (goesOn : Prop)
    (round : List Exchange) : Prop where
  lookUps : ∃ found, round.filterMap Exchange.lookUp? = [(f, found)]
  policies : ∀ p, round.filterMap Exchange.lookUp? = [(f, some p)] →
    ∃ policy, round.filterMap Exchange.policy? = [(p.patternId, policy)]
  retried : granterOf round ≠ none ↔
    ∃ p policy, round.filterMap Exchange.lookUp? = [(f, some p)] ∧
      round.filterMap Exchange.policy? = [(p.patternId, policy)] ∧ a ≤ policy.maxRetries.toNat
  consulted : round.filterMap Exchange.plea? ≠ [] ↔
    granterOf round = none ∧ x.settings.selfHealing = true ∧ a < x.settings.baseAttempts ∧
      x.hasHealer = true
  pleas : round.filterMap Exchange.plea? = [] ∨
    ∃ reply, round.filterMap Exchange.plea? = [(c, f, reply)]
  goesOn : goesOn ↔ granterOf round ≠ none ∨
    ∃ fix, round.filterMap Exchange.plea? = [(c, f, .ok (some fix))] ∧
      Text.isBlankText fix = false

variable {x : Executor} {c : Case} {a n : Nat} {awaiting : Option String}
  {log round decided found asked : List Exchange} {outcome : Except Failure Unit}
  {f : Failure} {turn : Turn}

/-- A fix may be asked for where the settings allow it and somebody is there. -/
lemma mayHeal_iff : x.mayHeal a = true ↔
    x.settings.selfHealing = true ∧ a < x.settings.baseAttempts ∧ x.hasHealer = true := by
  simp only [mayHeal, Bool.and_eq_true, decide_eq_true_eq, and_assoc]

/-- Where no retry is granted the failure is looked up all the same, and its policy has none. -/
lemma Ungranted.lookUps_eq (h : Ungranted a f found) :
    ∃ known, found.filterMap Exchange.lookUp? = [(f, known)] ∧
      ∀ p, known = some p → ∃ policy, found.filterMap Exchange.policy? = [(p.patternId, policy)] ∧
        ¬a ≤ policy.maxRetries.toNat := by
  cases h with
  | unknown => exact ⟨none, rfl, fun p hp => by cases hp⟩
  | spent p policy hn =>
    refine ⟨some p, rfl, fun p' hp' => ?_⟩
    cases hp'
    exact ⟨policy, rfl, hn⟩

/-- Looking a failure up asks nobody for a fix. -/
lemma Ungranted.pleas_eq (h : Ungranted a f found) : found.filterMap Exchange.plea? = [] := by
  cases h <;> rfl

/-- A fix is accepted that says something. -/
lemma acceptedFix_eq_some_iff {reply : Except Crash (Option String)} {fix : String} :
    acceptedFix reply = some fix ↔ reply = .ok (some fix) ∧ Text.isBlankText fix = false := by
  rcases reply with k | _ | fix'
  · simp [acceptedFix]
  · simp [acceptedFix]
  · grind [acceptedFix]

/-- A round in which no retry is granted, as far as the failure is looked up. -/
lemma Ruling.of_ungranted {goesOn : Prop} (hf : Ungranted a f found)
    (hlookUps : round.filterMap Exchange.lookUp? = found.filterMap Exchange.lookUp?)
    (hpolicies : round.filterMap Exchange.policy? = found.filterMap Exchange.policy?)
    (hgranter : granterOf round = none)
    (hconsulted : round.filterMap Exchange.plea? ≠ [] ↔ x.mayHeal a = true)
    (hpleas : round.filterMap Exchange.plea? = [] ∨
      ∃ reply, round.filterMap Exchange.plea? = [(c, f, reply)])
    (hgoesOn : goesOn ↔ ∃ reply fix, round.filterMap Exchange.plea? = [(c, f, reply)] ∧
      acceptedFix reply = some fix) : Ruling x c a f goesOn round := by
  obtain ⟨known, hknown, hspent⟩ := hf.lookUps_eq
  rw [hknown] at hlookUps
  constructor
  case lookUps => exact ⟨known, hlookUps⟩
  case policies =>
    intro p hp
    rw [hlookUps] at hp
    cases hp
    obtain ⟨policy, hpolicy, -⟩ := hspent p rfl
    exact ⟨policy, hpolicies.trans hpolicy⟩
  case retried =>
    refine ⟨fun h => absurd hgranter h, ?_⟩
    rintro ⟨p, policy, hp, hpolicy, hle⟩
    rw [hlookUps] at hp
    cases hp
    obtain ⟨policy', hpolicy', hn⟩ := hspent p rfl
    rw [hpolicies, hpolicy'] at hpolicy
    cases hpolicy
    exact absurd hle hn
  case consulted => rw [hconsulted, mayHeal_iff, eq_true hgranter, true_and]
  case pleas => exact hpleas
  case goesOn =>
    rw [hgoesOn]
    simp only [acceptedFix_eq_some_iff]
    constructor
    · rintro ⟨_, fix, hplea, rfl, hblank⟩
      exact .inr ⟨fix, hplea, hblank⟩
    · rintro (h | ⟨fix, hplea, hblank⟩)
      · exact absurd hgranter h
      · exact ⟨_, fix, hplea, rfl, hblank⟩

/-- A decision on a failure follows the rules. -/
lemma Decided.ruling (h : Decided x c a (.error f) decided turn) :
    Ruling x c a f (turn.goesOn = true) decided := by
  have hgranter := h.granterOf_eq
  cases h with
  | retried _ p policy hp =>
    constructor
    case lookUps => exact ⟨some p, rfl⟩
    case policies =>
      intro p' hp'
      cases hp'
      exact ⟨policy, rfl⟩
    case retried => exact ⟨fun _ => ⟨p, policy, rfl, rfl, hp⟩, fun _ h => by cases h⟩
    case consulted => exact ⟨fun h => absurd rfl h, fun h => by cases h.1⟩
    case pleas => exact .inl rfl
    case goesOn => exact ⟨fun _ => .inl (by rintro ⟨⟩), fun _ => rfl⟩
  | @healed _ found hf hm reply fix hx =>
    have hpleas :
        (found ++ [(⟨.heal c f, reply⟩ : Exchange)]).filterMap Exchange.plea? =
          [(c, f, reply)] := by
      rw [List.filterMap_append, hf.pleas_eq]
      rfl
    refine .of_ungranted hf ?_ ?_ hgranter ?_ ?_ ?_
    · rw [List.filterMap_append]
      exact List.append_nil _
    · rw [List.filterMap_append]
      exact List.append_nil _
    · exact ⟨fun _ => hm, fun _ h => by cases hpleas.symm.trans h⟩
    · exact .inr ⟨reply, hpleas⟩
    · exact ⟨fun _ => ⟨reply, fix, hpleas, hx⟩, fun _ => rfl⟩
  | @failed _ found asked hf hh now p =>
    have hpleas : (found ++ asked ++ [(⟨.now, now⟩ : Exchange), ⟨.record c.id f, p⟩]).filterMap
        Exchange.plea? = asked.filterMap Exchange.plea? := by
      rw [List.filterMap_append, List.filterMap_append, hf.pleas_eq]
      exact List.append_nil _
    have hasked :
        asked.filterMap Exchange.lookUp? = [] ∧ asked.filterMap Exchange.policy? = [] := by
      cases hh <;> exact ⟨rfl, rfl⟩
    refine .of_ungranted hf ?_ ?_ hgranter ?_ ?_ ?_
    · rw [List.filterMap_append, List.filterMap_append, hasked.1, List.append_nil]
      exact List.append_nil _
    · rw [List.filterMap_append, List.filterMap_append, hasked.2, List.append_nil]
      exact List.append_nil _
    · rw [hpleas]
      cases hh with
      | unasked hm => exact ⟨fun h => absurd rfl h, fun h => by cases hm.symm.trans h⟩
      | refused hm reply hr => exact ⟨fun _ => hm, fun _ h => by cases h⟩
    · rw [hpleas]
      cases hh with
      | unasked hm => exact .inl rfl
      | refused hm reply hr => exact .inr ⟨reply, rfl⟩
    · rw [hpleas]
      refine ⟨fun h => (by cases h), ?_⟩
      rintro ⟨reply, fix, hplea, hx⟩
      cases hh with
      | unasked hm => cases hplea
      | refused hm reply' hr =>
        cases hplea
        cases hr.symm.trans hx

/-- The rules look only at what the decision of a round shows. -/
lemma Ruling.of_sees {goesOn : Prop} (h : Ruling x c a f goesOn decided)
    (hsees : ∀ {α : Type} {read : Exchange → Option α}, Sees .decision read →
      round.filterMap read = decided.filterMap read) : Ruling x c a f goesOn round := by
  have hlookUps := hsees sees_lookUp?
  have hpolicies := hsees sees_policy?
  have hpleas := hsees sees_plea?
  have hgranter : granterOf round = granterOf decided := by
    rw [granterOf, granterOf, hsees sees_pause?, hlookUps]
  constructor
  case lookUps => exact hlookUps ▸ h.lookUps
  case policies => exact hlookUps ▸ hpolicies ▸ h.policies
  case retried => exact hgranter ▸ hlookUps ▸ hpolicies ▸ h.retried
  case consulted => exact hgranter ▸ hpleas ▸ h.consulted
  case pleas => exact hpleas ▸ h.pleas
  case goesOn => exact hgranter ▸ hpleas ▸ h.goesOn

/-- So does a round whose attempt has failed. -/
lemma Round.ruling (h : Round x c a awaiting round (.error f) turn) :
    Ruling x c a f (turn.goesOn = true) round := by
  obtain ⟨ha, hd⟩ := h
  exact hd.ruling.of_sees fun hsees => hsees.filterMap_decided ha.allOf (allOf_feedbackLog _ _)

/-- After an attempt that passed nothing is looked up, and nobody is asked for a fix. -/
lemma Round.quiet (h : Round x c a awaiting round (.ok ()) turn) :
    round.filterMap Exchange.lookUp? = [] ∧ round.filterMap Exchange.plea? = [] := by
  obtain ⟨ha, hd⟩ := h
  rw [sees_lookUp?.filterMap_decided ha.allOf (allOf_feedbackLog _ _),
    sees_plea?.filterMap_decided ha.allOf (allOf_feedbackLog _ _)]
  cases hd with
  | passed now => exact ⟨rfl, rfl⟩

/-- In one round there is one plea for a fix at most, and none once the attempts are used up. -/
lemma Round.pleas_length_le (h : Round x c a awaiting round outcome turn) :
    (round.filterMap Exchange.plea?).length ≤ if a < x.settings.baseAttempts then 1 else 0 := by
  cases outcome with
  | ok u => simp [h.quiet.2]
  | error f =>
    rcases h.ruling.pleas with hnone | ⟨reply, hplea⟩
    · simp [hnone]
    · have hlt := (h.ruling.consulted.mp (by simp [hplea])).2.2.1
      simp [hplea, hlt]

/-- There are fewer pleas for a fix than the attempts that the settings allow. -/
lemma Rounds.pleas_length_le {rs : List (List Exchange)} (h : Rounds x c n awaiting rs) :
    (rs.flatten.filterMap Exchange.plea?).length ≤ x.settings.baseAttempts - 1 - n := by
  induction h with
  | @last n _ round _ _ hround ht =>
    have hle := hround.pleas_length_le
    rw [List.flatten_cons, List.flatten_nil, List.append_nil]
    split_ifs at hle <;> omega
  | @more n _ round rest _ _ hround ht hr ih =>
    have hle := hround.pleas_length_le
    rw [List.flatten_cons, List.filterMap_append, List.length_append]
    split_ifs at hle <;> omega

/-! ### Retries after fixes -/

/-- Where a fix may be asked for after the first attempt, any later attempt may be granted a retry
after a fix, also one that the settings do not allow, by policies that allow no more retries than
there are such attempts. -/
lemma exists_retried_after_fix (hs : x.settings.skipTags.find? c.hasTag = none)
    (hm : x.mayHeal 1 = true) {k : Nat} (hk : k + 1 < UInt32.size) :
    ∃ log res, Executed x c log res ∧ retryLimit log ≤ k + 1 ∧ FixedAt (roundsIn log) 0 ∧
      ∀ i, 0 < i → i ≤ k → ∃ round, (roundsIn log)[i]? = some round ∧ granterOf round ≠ none := by
  let start : Result := { Result.pending default c.id with status := .running }
  have ha : Attempted x c _ (.error (setupFailure ⟨none⟩)) := .unbuilt ⟨none⟩
  have hx : acceptedFix (.ok (some "fix")) = some "fix" := by decide
  obtain ⟨rest, res, hr, -, hlimit, hgranted⟩ := exists_course_retried x c (n := 1) (k := k)
    (by omega) (((numbered 1 start).withFailure (setupFailure ⟨none⟩)).withFix "fix") false none
  have hround : Round x c 1 none _ _ _ := .intro ha (.healed .unknown hm _ "fix" hx)
  have hcourse : Course x c 0 start false none _ res := .heal ha .unknown hm _ "fix" hx hr
  have hcut := hround.roundsIn_append hr.head?_isBuild
  refine ⟨_, res, .ran hs default hcourse, ?_, ?_, fun i hpos hi => ?_⟩
  · simp only [retryLimit_append, retryLimit_cons, retryLimit_nil, retryLimit_feedbackLog,
      Exchange.allowance]
    omega
  · exact ⟨_, congrArg (·[0]?) hcut, by rw [hround.fixes_eq]; rintro ⟨⟩⟩
  · obtain ⟨j, rfl⟩ := Nat.exists_eq_succ_of_ne_zero hpos.ne'
    obtain ⟨round, hround, hgranter⟩ := hgranted j hi
    exact ⟨round, (congrArg (·[j + 1]?) hcut).trans hround, hgranter⟩

/-! ### Whole runs -/

/-- A case whose last attempt failed has failed with the failure of this attempt, which is entered
once. -/
lemma Executed.of_last_error {res : Result} (h : Executed x c log res)
    (hlast : (roundsIn log).getLast? = some round)
    (herror : round.filterMap Exchange.outcome? = [.error f]) :
    res.status = .failed ∧ res.errorMessage = some f.message ∧ recorded log = [(c.id, f)] := by
  rcases h.loaded_cases with ⟨start, rest, rfl, hr⟩ | ⟨-, hnone⟩
  · obtain ⟨round', hlast', hend⟩ := hr.conclusion
    cases hlast.symm.trans hlast'
    rcases hend with ⟨hok, -⟩ | ⟨f', herror', hstatus, hrecorded, hmessage, -⟩
    · cases hok.symm.trans herror
    · cases herror'.symm.trans herror
      exact ⟨hstatus, hmessage, hrecorded⟩
  · rw [hnone] at hlast
    cases hlast

/-- What becomes of the attempts of a case.  Each has one outcome.  One that passed is the last one,
nothing is looked up after it, and nobody is asked for a fix.  One that failed is decided on by the
rules, and if it was the last one its failure is that of the case, which is entered once.  There are
fewer pleas for a fix than attempts allowed. -/
structure Decides (x : Executor) (c : Case) (log : List Exchange) (res : Result) : Prop where
  outcome : ∀ (i : Nat) (round : List Exchange), (roundsIn log)[i]? = some round →
    ∃ outcome, round.filterMap Exchange.outcome? = [outcome]
  passed : ∀ (i : Nat) (round : List Exchange), (roundsIn log)[i]? = some round →
    round.filterMap Exchange.outcome? = [.ok ()] → (roundsIn log).length = i + 1 ∧
      round.filterMap Exchange.lookUp? = [] ∧ round.filterMap Exchange.plea? = []
  failed : ∀ (i : Nat) (round : List Exchange) (f : Failure), (roundsIn log)[i]? = some round →
    round.filterMap Exchange.outcome? = [.error f] →
      Ruling x c (i + 1) f (i + 1 < (roundsIn log).length) round
  last : ∀ (round : List Exchange) (f : Failure), (roundsIn log).getLast? = some round →
    round.filterMap Exchange.outcome? = [.error f] →
      res.status = .failed ∧ res.errorMessage = some f.message ∧ recorded log = [(c.id, f)]
  pleas : (log.filterMap Exchange.plea?).length ≤ x.settings.baseAttempts - 1

/-- So it is in every run. -/
lemma Executed.decides {res : Result} (h : Executed x c log res) : x.Decides c log res := by
  constructor
  case outcome =>
    intro i round hi
    obtain ⟨outcome, turn, hround, -⟩ := h.exists_round hi
    exact ⟨outcome, hround.outcomes_eq⟩
  case passed =>
    intro i round hi hok
    obtain ⟨outcome, turn, hround, hgoesOn⟩ := h.exists_round hi
    obtain rfl : outcome = .ok () := by simpa [hround.outcomes_eq] using hok
    have hlt : i < (roundsIn log).length := (List.getElem?_eq_some_iff.mp hi).1
    have hlast : ¬i + 1 < (roundsIn log).length := by
      rw [← hgoesOn]
      intro hgoes
      obtain ⟨f, hf⟩ := hround.exists_error hgoes
      cases hf
    exact ⟨by omega, hround.quiet⟩
  case failed =>
    intro i round f hi herror
    obtain ⟨outcome, turn, hround, hgoesOn⟩ := h.exists_round hi
    obtain rfl : outcome = .error f := by simpa [hround.outcomes_eq] using herror
    exact propext hgoesOn ▸ hround.ruling
  case last => exact fun round f hlast herror => h.of_last_error hlast herror
  case pleas =>
    rw [h.filterMap_eq (fun _ => rfl) fun _ => rfl]
    rcases h.rounds with hnone | hrounds
    · simp [hnone]
    · exact hrounds.pleas_length_le

end Executor

/-- A failure is found exactly if the store has a pattern under its id. -/
lemma World.found_iff {β : Type} (others : Collaborators β) (w : World β) (f : Failure) :
    ∃ found, (World.answer others (.detect f) w).1 = .reply 0 found ∧ (found.isSome = true ↔
      w.store.book.patterns.contains (Signature.patternIdOf f.message f.trace) = true) := by
  refine ⟨(w.store.detect w.now.1 f.message f.trace w.disk).1, rfl, ?_⟩
  rw [PatternStore.detect_fst, PatternBook.detect_fst, Option.isSome_map]
  rfl

namespace Executor

open Proc (Trace Answers trace_answered)

/-- However the requests of a case are answered, each attempt of its run that failed is decided on
by the rules: a retry if its failure is known and its policy has one for the number of the attempt,
else a fix if the settings allow it, somebody is there, and the answer says something, and else the
end, with this failure.  A run that is cut off anywhere is the beginning of such a run.  There are
fewer pleas for a fix than attempts allowed, whereas after a fix any number of attempts may be
granted a retry, whatever the settings allow.  All this as long as no policy allows as many retries
as 32 bits can count, and so 32 bits count the attempts.  A failure is known if the store has its
pattern when it is looked up, and its policy is the one that the store names. -/
theorem execute_decides (x : Executor) (c : Case) :
    (∀ o : Answers,
      let log := ((x.execute c).answered o []).1
      let r := ((x.execute c).answered o []).2
      retryLimit log < UInt32.size - 1 → x.Decides c log r ∧
        (x.settings.baseAttempts < UInt32.size → r.attempts < UInt32.size)) ∧
    (∀ log p, Proc.Path (x.execute c) log p → retryLimit log < UInt32.size - 1 →
      ∃ rest r, Trace (x.execute c) (log ++ rest) r ∧ x.Decides c (log ++ rest) r) ∧
    (∀ k, x.settings.skipTags.find? c.hasTag = none → x.settings.selfHealing = true →
      1 < x.settings.baseAttempts → x.hasHealer = true → k + 1 < UInt32.size - 1 →
      ∃ log r, Trace (x.execute c) log r ∧ retryLimit log < UInt32.size - 1 ∧
        FixedAt (roundsIn log) 0 ∧
        ∀ i, 0 < i → i ≤ k → ∃ round, (roundsIn log)[i]? = some round ∧ granterOf round ≠ none) ∧
    ∀ (β : Type) (others : Collaborators β) (w : World β),
      (∀ f, ∃ found, (World.answer others (.detect f) w).1 = .reply 0 found ∧
        (found.isSome = true ↔
          w.store.book.patterns.contains (Signature.patternIdOf f.message f.trace) = true)) ∧
      ∀ id, (World.answer others (.policy id) w).1 = .reply 0 (w.store.book.policy id) := by
  refine ⟨fun o => ?_, fun log p hpath _ => ?_, fun k hs hself hbase hhealer hk => ?_,
    fun β others w => ⟨World.found_iff others w, fun id => rfl⟩⟩
  · intro log r hlimit
    have hexec : Executed x c log r := trace_execute_iff.mp (trace_answered o (x.execute c) [])
    exact ⟨hexec.decides, fun hbase => hexec.attempts_lt hbase hlimit⟩
  · obtain ⟨rest, r, hexec⟩ := exists_executed_append hpath
    exact ⟨rest, r, trace_execute_iff.mpr hexec, hexec.decides⟩
  · have hm : x.mayHeal 1 = true := mayHeal_iff.mpr ⟨hself, hbase, hhealer⟩
    obtain ⟨log, r, hexec, hlimit, hfixed, hgranted⟩ :=
      exists_retried_after_fix hs hm (hk.trans_le (Nat.sub_le _ _))
    exact ⟨log, r, trace_execute_iff.mpr hexec, hlimit.trans_lt hk, hfixed, hgranted⟩

/-- A healer who crashes outside of what asking contains helps as little as one who declines, but
the case is not ended with its failure.  And where a policy allows as many retries as 32 bits can
count, a retry may lead to an attempt that they do not count. -/
theorem not_decides_of_crash_of_manyRetries :
    let s := World.surroundings (steady (.ends 5 (.failed (.ofMessage "boom")))
      (.crashes ⟨some "gone"⟩))
    let log := s.logAlone (tenacious.execute lateCase) (emptyBatch ())
    (log.filterMap Exchange.outcome? = [.error (.ofMessage "boom")] ∧
      (log.filterMap Exchange.lookUp?).map (fun e => (e.1, e.2.isSome)) =
        [(.ofMessage "boom", false)] ∧
      tenacious.mayHeal 1 = true ∧ recorded log = [] ∧
      (s.runAlone (tenacious.execute lateCase) (emptyBatch ())).1 = .error ⟨some "gone"⟩) ∧
    ∃ log res, Trace (tenacious.execute lateCase) log res ∧ retryLimit log = UInt32.size - 1 ∧
      res.attempts = UInt32.size ∧
      ∃ round, (roundsIn log)[UInt32.size - 2]? = some round ∧ granterOf round ≠ none := by
  intro s log
  refine ⟨by decide +kernel, ?_⟩
  obtain ⟨log, res, hexec, -, hlimit, hattempts, hgranted⟩ :=
    exists_executed_retried (x := tenacious) (c := lateCase) (k := UInt32.size - 1) rfl (by decide)
      (by decide)
  exact ⟨log, res, trace_execute_iff.mpr hexec, hlimit, hattempts, hgranted _ (by decide)⟩

end Executor

end Retrial

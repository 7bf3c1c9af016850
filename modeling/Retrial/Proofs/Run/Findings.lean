import Retrial.Proofs.Run.Calls
import Retrial.Proofs.Run.Rounds

/-!
# What a case is found to be

The status of a case is put together from what earlier attempts have left behind: whether a retry
was granted, whether a fix was applied, and the failure that came last.  Read off the rounds of the
run it is plain: the case passed at once, or after retries alone, or after a fix, or not at all
(`SucceedsAt`, `SucceedsOnRetry`, `SucceedsOnFix`).

Only the last attempt can succeed, since the case ends there, and every round before the last one
has granted a retry or applied a fix; so these findings exclude each other and leave out none.
-/

namespace Retrial

/-- The attempt at a place among the rounds succeeds. -/
def SucceedsAt (rounds : List (List Exchange)) (i : Nat) : Prop :=
  ∃ round, rounds[i]? = some round ∧ round.filterMap Exchange.outcome? = [.ok ()]

/-- After the attempt at a place among the rounds a fix is accepted. -/
def FixedAt (rounds : List (List Exchange)) (i : Nat) : Prop :=
  ∃ round, rounds[i]? = some round ∧ round.filterMap Exchange.fix? ≠ []

/-- An attempt after the first one succeeds; a retry has been granted, and no fix accepted. -/
def SucceedsOnRetry (rounds : List (List Exchange)) : Prop :=
  (∃ i, 0 < i ∧ SucceedsAt rounds i) ∧ rounds.filterMap granterOf ≠ [] ∧ ∀ i, ¬FixedAt rounds i

/-- An attempt succeeds after a fix has been accepted. -/
def SucceedsOnFix (rounds : List (List Exchange)) : Prop :=
  ∃ j i, j < i ∧ FixedAt rounds j ∧ SucceedsAt rounds i

/-- A fix is accepted after some round exactly if the rounds bring fixes. -/
lemma exists_fixedAt_iff {rounds : List (List Exchange)} :
    (∃ i, FixedAt rounds i) ↔ rounds.flatten.filterMap Exchange.fix? ≠ [] := by
  rw [List.filterMap_flatten, ne_eq, List.flatten_eq_nil_iff]
  simp only [FixedAt, List.forall_mem_map, not_forall]
  constructor
  · rintro ⟨i, round, hi, hfix⟩
    exact ⟨round, List.mem_of_getElem? hi, hfix⟩
  · rintro ⟨round, hmem, hfix⟩
    obtain ⟨i, hi⟩ := List.getElem?_of_mem hmem
    exact ⟨i, round, hi, hfix⟩

namespace Executor

variable {x : Executor} {c : Case} {n : Nat} {awaiting : Option String} {log : List Exchange}
  {r res : Result} {retried : Bool} {rs : List (List Exchange)}

namespace Rounds

/-- Only the last attempt succeeds. -/
lemma length_of_succeedsAt (h : Rounds x c n awaiting rs) {i : Nat} (hs : SucceedsAt rs i) :
    rs.length = i + 1 := by
  obtain ⟨round, hi, hok⟩ := hs
  obtain ⟨outcome, turn, hround, hlast⟩ := h.exists_round hi
  have hlt : i < rs.length := (List.getElem?_eq_some_iff.mp hi).1
  have hstays : ¬turn.goesOn = true := by
    intro hgoes
    obtain ⟨f, rfl⟩ := hround.exists_error hgoes
    rw [hround.outcomes_eq] at hok
    cases hok
  rw [hlast] at hstays
  omega

/-- An accepted fix leads to another attempt. -/
lemma lt_length_of_fixedAt (h : Rounds x c n awaiting rs) {i : Nat} (hf : FixedAt rs i) :
    i + 1 < rs.length := by
  obtain ⟨round, hi, hfix⟩ := hf
  obtain ⟨outcome, turn, hround, hlast⟩ := h.exists_round hi
  rw [hround.fixes_eq] at hfix
  exact hlast.mp (Turn.goesOn_iff.mpr (.inr hfix))

/-- There is a second attempt exactly if a retry is granted or a fix accepted. -/
lemma one_lt_length_iff (h : Rounds x c n awaiting rs) :
    1 < rs.length ↔ rs.filterMap granterOf ≠ [] ∨ ∃ i, FixedAt rs i := by
  constructor
  · intro hlt
    obtain ⟨round, hround⟩ : ∃ round, rs[0]? = some round :=
      ⟨_, List.getElem?_eq_getElem h.length_pos⟩
    obtain ⟨outcome, turn, hr, hlast⟩ := h.exists_round hround
    rcases Turn.goesOn_iff.mp (hlast.mpr hlt) with hgranted | hfixed
    · left
      rw [ne_eq, List.filterMap_eq_nil_iff]
      intro hnone
      exact hgranted (hr.granterOf_eq ▸ hnone round (List.mem_of_getElem? hround))
    · exact .inr ⟨0, round, hround, hr.fixes_eq ▸ hfixed⟩
  · rintro (hgranted | ⟨i, hf⟩)
    · rw [ne_eq, List.filterMap_eq_nil_iff] at hgranted
      push Not at hgranted
      obtain ⟨round, hmem, hgranter⟩ := hgranted
      obtain ⟨i, hi⟩ := List.getElem?_of_mem hmem
      obtain ⟨outcome, turn, hr, hlast⟩ := h.exists_round hi
      rw [hr.granterOf_eq] at hgranter
      have hlt := hlast.mp (Turn.goesOn_iff.mpr (.inl hgranter))
      omega
    · have hlt := h.lt_length_of_fixedAt hf
      omega

/-- Whatever succeeds, succeeds in one of three ways: at once, on a retry, or on a fix. -/
lemma succeeds_cases (h : Rounds x c n awaiting rs) {i : Nat} (hs : SucceedsAt rs i) :
    SucceedsAt rs 0 ∧ rs.filterMap granterOf = [] ∧ (∀ i, ¬FixedAt rs i) ∨
      SucceedsOnRetry rs ∨ SucceedsOnFix rs := by
  have hlen := h.length_of_succeedsAt hs
  by_cases hfix : ∃ j, FixedAt rs j
  · obtain ⟨j, hj⟩ := hfix
    have hlt := h.lt_length_of_fixedAt hj
    exact .inr (.inr ⟨j, i, by omega, hj, hs⟩)
  · have hnofix : ∀ j, ¬FixedAt rs j := fun j hj => hfix ⟨j, hj⟩
    have hmany := h.one_lt_length_iff
    by_cases hgranted : rs.filterMap granterOf = []
    · have hi : i = 0 := by
        by_contra hne
        rcases hmany.mp (by omega) with hg | hf
        · exact hg hgranted
        · exact hfix hf
      exact .inl ⟨hi ▸ hs, hgranted, hnofix⟩
    · have hlt := hmany.mpr (.inl hgranted)
      exact .inr (.inl ⟨⟨i, by omega, hs⟩, hgranted, hnofix⟩)

/-- What succeeds at once needs neither retry nor fix. -/
lemma not_of_succeedsAt_zero (h : Rounds x c n awaiting rs) (hs : SucceedsAt rs 0) :
    ¬SucceedsOnRetry rs ∧ ¬SucceedsOnFix rs := by
  have hlen := h.length_of_succeedsAt hs
  constructor
  · rintro ⟨⟨i, hpos, hi⟩, -⟩
    have hlen' := h.length_of_succeedsAt hi
    omega
  · rintro ⟨j, i, hlt, -, hi⟩
    have hlen' := h.length_of_succeedsAt hi
    omega

end Rounds

/-! ### What the attempts leave on the result -/

/-- A result is healed exactly if a fix was accepted, and bears the fix that was accepted last. -/
lemma Course.healed_eq (h : Course x c n r retried awaiting log res) :
    res.healed = (r.healed || !(log.filterMap Exchange.fix?).isEmpty) ∧
      res.healingApplied = (log.filterMap Exchange.fix?).getLast?.or r.healingApplied := by
  induction h using Course.byRounds with
  | passed hround now _ =>
    rw [hround.fixes_eq]
    exact ⟨(Bool.or_false _).symm, rfl⟩
  | retried hround _ _ ih =>
    rw [List.filterMap_append, hround.fixes_eq]
    exact ih
  | @healed n r _ _ _ fix f _ rest hround _ _ ih =>
    rw [List.filterMap_append, hround.fixes_eq]
    refine ⟨ih.1.trans (by simp [Result.withFix, Turn.fix?]), ih.2.trans ?_⟩
    change (rest.filterMap Exchange.fix?).getLast?.or (some fix) =
      (fix :: rest.filterMap Exchange.fix?).getLast?.or _
    rw [List.getLast?_cons]
    cases (rest.filterMap Exchange.fix?).getLast? <;> rfl
  | failed hround now _ =>
    rw [hround.fixes_eq]
    exact ⟨(Bool.or_false _).symm, rfl⟩

/-- How a course ends: its last attempt succeeds, and the status says whether there were fixes or
retries; or it fails, the failure is entered once, and the result tells of it. -/
lemma Course.conclusion (h : Course x c n r retried awaiting log res) :
    ∃ round, (roundsIn log).getLast? = some round ∧
      (round.filterMap Exchange.outcome? = [.ok ()] ∧
          res.status = (if res.healed then .healed else
            if retried || !((roundsIn log).filterMap granterOf).isEmpty then .flaky else .passed) ∧
          res.errorMessage = none ∧ res.stackTrace = none ∨
        ∃ f, round.filterMap Exchange.outcome? = [.error f] ∧ res.status = .failed ∧
          recorded log = [(c.id, f)] ∧ res.errorMessage = some f.message ∧
          res.stackTrace = if f.trace = "" then none else some f.trace) := by
  have hlast : ∀ {round : List Exchange} {rounds : List (List Exchange)}, rounds ≠ [] →
      (round :: rounds).getLast? = rounds.getLast? := by
    intro round rounds hne
    rw [List.getLast?_cons, List.getLast?_eq_some_getLast hne]
    rfl
  induction h using Course.byRounds with
  | @passed n r retried awaiting round hround now _ =>
    refine ⟨round, by rw [hround.roundsIn_eq]; rfl, .inl ⟨hround.outcomes_eq, ?_, rfl, rfl⟩⟩
    have hgranter : granterOf round = none := hround.granterOf_eq
    have hretried : (retried || !([round].filterMap granterOf).isEmpty) = retried := by
      simp [hgranter]
    rw [hround.roundsIn_eq, hretried]
    rfl
  | @retried n r res retried awaiting id f round rest hround hr _ ih =>
    have hne : roundsIn rest ≠ [] := List.ne_nil_of_length_pos hr.rounds.length_pos
    have hgranter : granterOf round = some id := hround.granterOf_eq
    rw [hround.roundsIn_append hr.head?_isBuild, hlast hne, recorded_append,
      hround.recorded_eq.1 rfl]
    simpa [hgranter] using ih
  | @healed n r res retried awaiting fix f round rest hround hr _ ih =>
    have hne : roundsIn rest ≠ [] := List.ne_nil_of_length_pos hr.rounds.length_pos
    have hgranter : granterOf round = none := hround.granterOf_eq
    rw [hround.roundsIn_append hr.head?_isBuild, hlast hne, recorded_append,
      hround.recorded_eq.1 rfl]
    simpa [hgranter] using ih
  | @failed n r retried awaiting f round hround now _ =>
    refine ⟨round, by rw [hround.roundsIn_eq]; rfl, .inr ⟨f, hround.outcomes_eq, rfl,
      hround.recorded_eq.2 f rfl rfl, rfl, ?_⟩⟩
    simp [Result.withFailure, Result.finish]

/-- The status is the one that the rounds call for. -/
lemma Course.status_cases (h : Course x c 0 r false awaiting log res) (hr : r.healed = false) :
    res.status = .passed ∧ SucceedsAt (roundsIn log) 0 ∨
      res.status = .flaky ∧ SucceedsOnRetry (roundsIn log) ∨
      res.status = .healed ∧ SucceedsOnFix (roundsIn log) ∨
      res.status = .failed ∧ ∀ i, ¬SucceedsAt (roundsIn log) i := by
  have hfixes : res.healed = true ↔ ∃ i, FixedAt (roundsIn log) i := by
    rw [exists_fixedAt_iff, h.flatten_roundsIn, h.healed_eq.1, hr, Bool.false_or]
    simp
  obtain ⟨round, hlast, hend⟩ := h.conclusion
  rw [List.getLast?_eq_getElem?] at hlast
  rcases hend with ⟨hok, hstatus, -⟩ | ⟨f, herror, hstatus, -⟩
  · rcases h.rounds.succeeds_cases ⟨round, hlast, hok⟩ with ⟨hs, hnone, hnofix⟩ | hs | hs
    · have hunhealed : ¬res.healed = true := by simpa [hfixes] using hnofix
      exact .inl ⟨by simpa [hunhealed, hnone] using hstatus, hs⟩
    · have hunhealed : ¬res.healed = true := by simpa [hfixes] using hs.2.2
      exact .inr (.inl ⟨by simpa [hunhealed, hs.2.1] using hstatus, hs⟩)
    · obtain ⟨j, i, -, hfix, -⟩ := id hs
      have hhealed : res.healed = true := hfixes.mpr ⟨j, hfix⟩
      exact .inr (.inr (.inl ⟨by simpa [hhealed] using hstatus, hs⟩))
  · refine .inr (.inr (.inr ⟨hstatus, fun i hs => ?_⟩))
    -- A success would be that of the last attempt, which has failed.
    obtain ⟨round', hi, hok⟩ := id hs
    rw [show i = (roundsIn log).length - 1 from by have := h.rounds.length_of_succeedsAt hs; omega,
      hlast] at hi
    cases hi
    rw [herror] at hok
    cases hok

end Executor

/-- What a case is found to be, by its rounds and the fixes that were accepted. -/
structure Finding (rounds : List (List Exchange)) (fixes : List String) (r : Result) : Prop where
  attempts : r.attempts = rounds.length
  passed : r.status = .passed ↔ SucceedsAt rounds 0
  atOnce : r.status = .passed → r.attempts = 1
  flaky : r.status = .flaky ↔ SucceedsOnRetry rounds
  healed : r.status = .healed ↔ SucceedsOnFix rounds
  failed : r.status = .failed ↔
    ¬SucceedsAt rounds 0 ∧ ¬SucceedsOnRetry rounds ∧ ¬SucceedsOnFix rounds
  isHealed : r.healed = true ↔ fixes ≠ []
  healingApplied : r.healingApplied = fixes.getLast?
  noError : r.status ≠ .failed → r.errorMessage = none ∧ r.stackTrace = none
  lastError : r.status = .failed → ∃ round f, rounds.getLast? = some round ∧
    round.filterMap Exchange.outcome? = [.error f] ∧ r.errorMessage = some f.message ∧
    r.stackTrace = if f.trace = "" then none else some f.trace

namespace Executor

variable {x : Executor} {c : Case} {awaiting : Option String} {log : List Exchange} {r res : Result}

/-- A course from the first attempt on is found to be what its rounds and fixes say. -/
lemma Course.finding (h : Course x c 0 r false awaiting log res) (hr : r.healed = false)
    (hr' : r.healingApplied = none) :
    Finding (roundsIn log) (log.filterMap Exchange.fix?) res := by
  obtain ⟨round, hlast, hend⟩ := h.conclusion
  have hattempts : res.attempts = (roundsIn log).length := by
    rw [h.attempts_eq, length_roundsIn, Nat.zero_add]
  have hfirst := h.rounds.not_of_succeedsAt_zero
  have hretry : SucceedsOnRetry (roundsIn log) → ¬SucceedsOnFix (roundsIn log) := by
    rintro ⟨-, -, hnofix⟩ ⟨j, -, -, hfix, -⟩
    exact hnofix j hfix
  have hnever : (∀ i, ¬SucceedsAt (roundsIn log) i) →
      ¬SucceedsAt (roundsIn log) 0 ∧ ¬SucceedsOnRetry (roundsIn log) ∧
        ¬SucceedsOnFix (roundsIn log) := by
    intro hnone
    refine ⟨hnone 0, ?_, ?_⟩
    · rintro ⟨⟨i, -, hi⟩, -⟩
      exact hnone i hi
    · rintro ⟨-, i, -, -, hi⟩
      exact hnone i hi
  have hstatus := h.status_cases hr
  constructor
  case attempts => exact hattempts
  case passed => grind
  case atOnce =>
    intro hpassed
    have hs : SucceedsAt (roundsIn log) 0 := by grind
    rw [hattempts, h.rounds.length_of_succeedsAt hs]
  case flaky => grind
  case healed => grind
  case failed => grind
  case isHealed =>
    rw [h.healed_eq.1, hr, Bool.false_or]
    simp
  case healingApplied => rw [h.healed_eq.2, hr', Option.or_none]
  case noError =>
    intro hne
    rcases hend with ⟨-, -, hmessage, htrace⟩ | ⟨f, -, hfailed, -⟩
    · exact ⟨hmessage, htrace⟩
    · exact absurd hfailed hne
  case lastError =>
    intro hfailed
    rcases hend with ⟨-, hsuccess, -⟩ | ⟨f, herror, -, -, hmessage, htrace⟩
    · rw [hfailed] at hsuccess
      split_ifs at hsuccess
    · exact ⟨round, f, hlast, herror, hmessage, htrace⟩

/-! ### Runs of many attempts -/

/-- Feedback names no policy. -/
lemma retryLimit_feedbackLog (awaiting : Option String) (outcome : Except Failure Unit) :
    retryLimit (feedbackLog awaiting outcome) = 0 := by
  cases awaiting <;> rfl

/-- Asking for a fix names no policy. -/
lemma Unhealed.retryLimit_eq {f : Failure} {n : Nat} {asked : List Exchange}
    (h : Unhealed x c n f asked) : retryLimit asked = 0 := by
  cases h <;> rfl

/-- A retry may follow a retry for as long as numbers of retries last. -/
lemma exists_course_retried (x : Executor) (c : Case) {k n : Nat} (hk : n + k < UInt32.size)
    (r : Result) (retried : Bool) (awaiting : Option String) :
    ∃ log res, Course x c n r retried awaiting log res ∧ res.attempts = n + k + 1 ∧
      retryLimit log ≤ n + k ∧
      ∀ i < k, ∃ round, (roundsIn log)[i]? = some round ∧ granterOf round ≠ none := by
  induction k generalizing n r retried awaiting with
  | zero =>
    have hunhealed : ∃ asked, Unhealed x c (n + 1) (setupFailure ⟨none⟩) asked := by
      cases hm : x.mayHeal (n + 1) with
      | false => exact ⟨_, .unasked hm⟩
      | true => exact ⟨_, .refused hm (.ok none) rfl⟩
    obtain ⟨asked, hasked⟩ := hunhealed
    refine ⟨_, _, .fail (.unbuilt ⟨none⟩) .unknown hasked default default, rfl, ?_,
      fun i hi => by omega⟩
    simp [retryLimit_feedbackLog, hasked.retryLimit_eq, Exchange.allowance]
  | succ k ih =>
    let policy : RetryPolicy := { RetryPolicy.fallback "" with maxRetries := .ofNat (n + 1) }
    have hlt : n + 1 < UInt32.size := by omega
    have hpolicy : policy.maxRetries.toNat = n + 1 := UInt32.toNat_ofNat_of_lt' hlt
    have ha : Attempted x c _ (.error (setupFailure ⟨none⟩)) := .unbuilt ⟨none⟩
    obtain ⟨rest, res, hr, hattempts, hlimit, hgranted⟩ := ih (n := n + 1) (by omega)
      ((numbered (n + 1) r).withFailure (setupFailure ⟨none⟩)) true
      (some (default : Pattern).patternId)
    have hround : Round x c (n + 1) awaiting _ _ _ :=
      .intro ha (.retried _ default policy hpolicy.ge)
    refine ⟨_, res, .retry ha default policy hpolicy.ge hr, by omega, ?_, fun i hi => ?_⟩
    · simp only [retryLimit_append, retryLimit_cons, retryLimit_nil, retryLimit_feedbackLog,
        Exchange.allowance, hpolicy]
      omega
    · rw [hround.roundsIn_append hr.head?_isBuild]
      cases i with
      | zero => exact ⟨_, rfl, by rw [hround.granterOf_eq]; rintro ⟨⟩⟩
      | succ i => exact hgranted i (by omega)

/-- A case may be granted any number of retries that a policy can name, if they are no fewer than
the attempts that the settings allow. -/
lemma exists_executed_retried {k : Nat} (hs : x.settings.skipTags.find? c.hasTag = none)
    (hbase : x.settings.baseAttempts ≤ k) (hk : k < UInt32.size) :
    ∃ log res, Executed x c log res ∧ Loaded c log ∧ retryLimit log = k ∧ res.attempts = k + 1 ∧
      ∀ i < k, ∃ round, (roundsIn log)[i]? = some round ∧ granterOf round ≠ none := by
  obtain ⟨rest, res, hcourse, hattempts, hlimit, hgranted⟩ := exists_course_retried x c
    (k := k) (n := 0) (by omega) { Result.pending default c.id with status := .running } false none
  have hexec : Executed x c _ res := .ran hs default hcourse
  refine ⟨_, res, hexec, by simp [Loaded], ?_, by omega, hgranted⟩
  -- So many attempts need a policy that names one retry less.
  have hle := hexec.attempts_le
  simp only [retryLimit_cons, Exchange.allowance, Nat.zero_max] at hle ⊢
  omega

open Proc

/-- However the requests of a case are answered whose module was loaded, its result is what the
attempts, the retries and the fixes of its run call for: it passed if the first attempt succeeded,
is flaky if a later one did after retries alone, was healed if one did after a fix, and failed if
none did.  It bears the last fix accepted, whether or not the case passed then, and the failure of
the last attempt if that one failed.  As long as no policy allows as many retries as 32 bits can
count, 32 bits count the attempts. -/
theorem execute_finding (x : Executor) (c : Case) (o : Answers)
    (hl : Loaded c ((x.execute c).answered o []).1)
    (hlimit : retryLimit ((x.execute c).answered o []).1 < UInt32.size - 1) :
    Finding (roundsIn ((x.execute c).answered o []).1)
      (((x.execute c).answered o []).1.filterMap Exchange.fix?) ((x.execute c).answered o []).2 ∧
    (x.settings.baseAttempts < UInt32.size →
      ((x.execute c).answered o []).2.attempts < UInt32.size) := by
  have hrun := trace_execute_iff.mp (trace_answered o (x.execute c) [])
  refine ⟨?_, fun hbase => hrun.attempts_lt hbase hlimit⟩
  rcases hrun.loaded_cases with ⟨start, rest, hlog, hr⟩ | ⟨hnot, -⟩
  · rw [hlog]
    exact hr.finding rfl rfl
  · exact absurd hl hnot

/-- Allows three attempts and has somebody to ask for fixes. -/
def tenacious : Executor := ⟨EngineSettings.default.withSelfHealing 3, true⟩

/-- A case whose first two attempts fail. -/
def lateCase : Case := ⟨"a", "m", "s", []⟩

/-- The first two attempts fail; the pattern of their failure is known and grants a single retry. -/
def twoFailures (past : List Exchange) : (q : Request) → q.Reply
  | .now => ⟨0, 0⟩
  | .load _ => .ok ()
  | .build _ => .ok ()
  | .invoke _ _ => if attemptsIn past < 3 then .failed (.ofMessage "boom") else .passed
  | .teardown _ => .done
  | .release _ => ()
  | .heal _ _ => .ok (some "wait longer")
  | .pause _ => ()
  | .detect _ => some (.first ⟨0, 0⟩ "p" .unknown "boom" "a")
  | .policy id => { RetryPolicy.fallback id with maxRetries := 1 }
  | .record _ _ => .first ⟨0, 0⟩ "p" .unknown "boom" "a"
  | .feedback _ _ => ()
  | .report _ => ()

/-- A retry, then a fix, then success: the case was healed. -/
theorem execute_finding_twoFailures :
    Loaded lateCase ((tenacious.execute lateCase).answered twoFailures []).1 ∧
    retryLimit ((tenacious.execute lateCase).answered twoFailures []).1 = 1 ∧
    ((tenacious.execute lateCase).answered twoFailures []).2.status = .healed ∧
    ((tenacious.execute lateCase).answered twoFailures []).2.attempts = 3 ∧
    Finding (roundsIn ((tenacious.execute lateCase).answered twoFailures []).1)
      (((tenacious.execute lateCase).answered twoFailures []).1.filterMap Exchange.fix?)
      ((tenacious.execute lateCase).answered twoFailures []).2 := by
  have hl : Loaded lateCase ((tenacious.execute lateCase).answered twoFailures []).1 := by
    rw [execute_of_unskipped rfl]
    exact List.mem_cons_of_mem _ List.mem_cons_self
  have hlimit : retryLimit ((tenacious.execute lateCase).answered twoFailures []).1 = 1 := by
    decide +kernel
  exact ⟨hl, hlimit, by decide +kernel, by decide +kernel,
    (execute_finding tenacious lateCase twoFailures hl (by rw [hlimit]; decide)).1⟩

/-- A world whose store is empty. -/
def emptyBatch {β : Type} (others : β) : Batch (World β) where
  world :=
    { store := .inMemory
      disk := Disk.empty
      clock := 0
      dawn := default
      pace := 0
      readings := 0
      others }
  received := []

/-- What comes of every run of a module, and of asking for a fix, is given. -/
def steady (run : Invocation) (healing : Healing) : Collaborators Unit where
  load _ s := (.ok (), s)
  build _ _ s := (.ok (), s)
  invoke _ _ s := (run, s)
  teardown _ _ s := (.ends 0 .done, s)
  release _ _ s := (none, s)
  heal _ _ _ s := (healing, s)
  progress _ _ s := s

/-- A module whose run crashes outside of what a run contains leaves its case without any result.
And where a policy allows as many retries as 32 bits can count, a case may come to an attempt that
they do not count. -/
theorem not_finding_of_crash_of_manyRetries :
    let s := World.surroundings (steady (.crashes ⟨some "boom"⟩) (.answers 0 (.ok none)))
    (Loaded lateCase (s.logAlone (tenacious.execute lateCase) (emptyBatch ())) ∧
      (s.runAlone (tenacious.execute lateCase) (emptyBatch ())).1 = .error ⟨some "boom"⟩) ∧
    ∃ log res, Trace (tenacious.execute lateCase) log res ∧ Loaded lateCase log ∧
      retryLimit log = UInt32.size - 1 ∧ res.attempts = UInt32.size := by
  intro s
  refine ⟨⟨List.mem_of_getElem? (i := 1) rfl, by decide +kernel⟩, ?_⟩
  obtain ⟨log, res, hexec, hloaded, hlimit, hattempts, -⟩ :=
    exists_executed_retried (x := tenacious) (c := lateCase) (k := UInt32.size - 1) rfl (by decide)
      (by decide)
  exact ⟨log, res, trace_execute_iff.mpr hexec, hloaded, hlimit, hattempts⟩

end Executor

end Retrial

import Retrial.Proofs.Pattern.Averages
import Retrial.Proofs.Pattern.Durability
import Retrial.Proofs.Pattern.Record

/-!
# Reopening a pattern store

A book that has been kept is read again by a store that is opened on its file (`open_keep`).  What
calls leave of an empty book can be read back (`readable_enterAll`): each call counts at most one
outcome, so fewer than `2 ^ 64` calls overflow no counter, and the averages stay between zero and
one.  So patterns come back as they were, and policies but for their averages: these are read from
a shortest decimal by one division, which is exact if the decimal has few digits, and otherwise
close unless the average is small.
-/

namespace Retrial

open Text (glyphs)

namespace PatternStore

/-! ### What calls leave -/

/-- The time that a call is told is a valid one. -/
def Call.Timely : Call → Prop
  | detect now _ _ => now.Valid
  | record now _ _ _ _ => now.Valid
  | _ => True

/-- A book after at most so many calls. -/
structure After (n : Nat) (b : PatternBook) : Prop where
  lastSeen : ∀ id p, b.patterns.get? id = some p → p.lastSeen.Valid
  delays : ∀ id q, b.policies.get? id = some q →
    q.baseDelayMs < 2 ^ 64 ∧ q.maxDelayMs < 2 ^ 64
  totalApplied : ∀ id q, b.policies.get? id = some q → q.totalApplied.toNat ≤ n
  successRate : ∀ id q, b.policies.get? id = some q → Double.InUnit q.successRate

variable {n : Nat} {b : PatternBook}

/-- The delays of the policy that a pattern starts with. -/
lemma delays_ofKind (id : String) (kind : FailureKind) :
    (RetryPolicy.ofKind id kind).baseDelayMs < 2 ^ 64 ∧
      (RetryPolicy.ofKind id kind).maxDelayMs < 2 ^ 64 := by
  cases kind <;> exact ⟨by norm_num [RetryPolicy.ofKind, RetryPolicy.fallback],
    by norm_num [RetryPolicy.ofKind, RetryPolicy.fallback]⟩

/-- One more call counts at most one outcome. -/
lemma After.enter (h : After n b) {c : Call} (hc : c.Timely) (hn : n + 1 < 2 ^ 64) :
    After (n + 1) (c.enter b) where
  lastSeen := by
    intro id p hp
    obtain hold | ⟨now, message, trace, q, rfl, -, -, rfl⟩ |
      ⟨now, testId, message, trace, fix, q, rfl, -, -, rfl⟩ |
      ⟨now, testId, message, trace, fix, rfl, -, rfl⟩ := c.patterns_enter hp
    · exact h.lastSeen id p hold
    · exact hc
    · exact hc
    · exact hc
  delays := by
    intro id q hq
    obtain hold | ⟨success, q', -, hold, rfl⟩ | ⟨kind, rfl⟩ := c.policies_enter hq
    · exact h.delays id q hold
    · exact h.delays id q' hold
    · exact delays_ofKind id kind
  totalApplied := by
    intro id q hq
    obtain hold | ⟨success, q', -, hold, rfl⟩ | ⟨kind, rfl⟩ := c.policies_enter hq
    · exact (h.totalApplied id q hold).trans (Nat.le_succ n)
    · have hcount := h.totalApplied id q' hold
      have hlt : q'.totalApplied.toNat + 1 < 2 ^ 64 := by omega
      have hnext : (q'.totalApplied.plus 1).toNat = q'.totalApplied.toNat + 1 :=
        Counter.toNat_plus_of_lt hlt
      exact hnext.trans_le (Nat.succ_le_succ hcount)
    · rw [RetryPolicy.totalApplied_ofKind]
      exact Nat.zero_le _
  successRate := by
    intro id q hq
    obtain hold | ⟨success, q', -, hold, rfl⟩ | ⟨kind, rfl⟩ := c.policies_enter hq
    · exact h.successRate id q hold
    · have hcount := h.totalApplied id q' hold
      have hlt : q'.totalApplied.toNat + 1 < 2 ^ 64 := by omega
      have hnext : (q'.totalApplied.plus 1).toNat = q'.totalApplied.toNat + 1 :=
        Counter.toNat_plus_of_lt hlt
      exact Double.inUnit_fold (h.successRate id q' hold) (by omega) (by omega) success
    · rw [RetryPolicy.successRate_ofKind]
      exact Double.inUnit_zero

/-- Calls on an empty book count at most one outcome each. -/
lemma after_enterAll {calls : List Call} (hcalls : ∀ c ∈ calls, c.Timely)
    (hlength : calls.length < 2 ^ 64) : After calls.length (enterAll .empty calls) := by
  induction calls using List.reverseRecOn with
  | nil =>
    have hnone (id : String) : PatternBook.empty.patterns.get? id = none := rfl
    have hnone' (id : String) : PatternBook.empty.policies.get? id = none := rfl
    constructor <;> intro id x hx <;> simp [enterAll_nil, hnone, hnone'] at hx
  | append_singleton front last ih =>
    rw [List.length_append, List.length_singleton] at hlength ⊢
    rw [enterAll_append]
    have hfront := ih (fun c hc => hcalls c (List.mem_append_left _ hc)) (by omega)
    exact hfront.enter (hcalls last (by simp)) hlength

/-- What calls leave of an empty book can be read back. -/
theorem readable_enterAll {calls : List Call} (hcalls : ∀ c ∈ calls, c.Timely)
    (hlength : calls.length < 2 ^ 64) : (enterAll .empty calls).Readable := by
  have h := after_enterAll hcalls hlength
  refine ⟨fun id p hp => ⟨h.lastSeen id p hp⟩, fun id q hq => ?_⟩
  obtain ⟨hbase, hmax⟩ := h.delays id q hq
  exact ⟨hbase, hmax, h.successRate id q hq⟩

/-! ### Reading what has been kept -/

variable {d d' : Disk} {p : Path}

/-- A path that a file has been moved to can be followed to this file. -/
lemma resolve_of_rename {a : Path} (h : d.IsTree) (ha : d.node? (d.place a) ≠ some .folder)
    (hok : (d.rename a p).1 = .ok ()) :
    ∃ t, (d.rename a p).2.resolve p = .ok t ∧ t.asFolder = false := by
  obtain ⟨e, he, -⟩ | ⟨n, s, t, -, -, ht, hfolder, -⟩ := Disk.rename_cases d a p
  · rw [he] at hok
    cases hok
  · exact ⟨t, (h.rename ha).2.resolve ht, hfolder⟩

/-- A file that has been replaced can be read. -/
lemma read_of_replaceFile (h : d.IsTree) {content : List Text.Glyph}
    (hok : (replaceFile p content d).1 = .ok ()) :
    ((replaceFile p content d).2.read p).toOption = some content := by
  obtain ⟨hhere, ⟨e, he, -⟩ | ⟨-, hfile⟩⟩ := replaceFile_cases p content d
  · rw [he] at hok
    cases hok
  have htree := (h.write (p.withExtension "json.tmp") content).1
  have hbeside := (Disk.write_beside d p Path.compound_jsonTmp content).1
  obtain ⟨t, ht, hfolder⟩ : ∃ t, (replaceFile p content d).2.resolve p = .ok t ∧
      t.asFolder = false := by
    unfold replaceFile at hok ⊢
    split at hok
    · cases hok
    · rename_i d₁ hwrite
      have hwritten := Disk.fileAt_write (congrArg Prod.fst hwrite)
      rw [hwrite] at htree hbeside hwritten
      rw [← Disk.place_congr hbeside] at hwritten
      have hnode : d₁.node? (d₁.place (p.withExtension "json.tmp")) ≠ some .folder := by
        intro hfolder
        unfold Disk.fileAt at hwritten
        simp [hfolder] at hwritten
      exact resolve_of_rename htree hnode hok
  rw [Disk.toOption_read ht, hfolder, Disk.place_congr hhere, hfile]
  rfl

/-- A book that has been kept is what its file holds when it is read. -/
lemma read_of_keep (h : d.IsTree) (hok : (keep p b d).1 = .ok ()) :
    (keep p b d).2.read p = .ok (glyphs (fileText b)) := by
  have hroom : (makeRoom p d).2.IsTree := by
    unfold makeRoom
    split
    · exact h
    · exact (h.makeFolders _).1
  rw [keep_eq] at hok ⊢
  split at hok
  · cases hok
  · rename_i d₁ hmade
    rw [hmade] at hroom
    have hread := read_of_replaceFile hroom hok
    cases hresult : (replaceFile p (glyphs (fileText b)) d₁).2.read p with
    | error e =>
      rw [hresult] at hread
      cases hread
    | ok content =>
      rw [hresult] at hread
      exact congrArg Except.ok (Option.some.inj hread)

/-! ### Reopening -/

/-- A store that is opened on the file of a book has this book, but for the averages. -/
lemma book_open_keep (hb : b.Readable) (hd : d.IsTree) (hkept : (keep p b d).1 = .ok ()) :
    (PatternStore.open (keep p b d).2 p).book = b.reread :=
  congrArg PatternStore.book
    (open_of_decode (read_of_keep hd hkept) (PatternBook.decode_prettyText hb))

/-- The book that calls on an empty store leave. -/
lemma book_runCalls (path : Option Path) (d : Disk) (calls : List Call) :
    (runCalls ⟨path, .empty⟩ d calls).2.1.book = enterAll .empty calls :=
  runCalls_book ⟨path, .empty⟩ d calls

/-- A store that is opened on the file of a book that calls have left has the same patterns, and the
same policies but for their averages: each of these comes back as its shortest decimal is read,
which is the same double if the decimal is short, and differs by no more than one part in `2 ^ 51`
unless it is small. -/
theorem open_keep {path : Option Path} {d₀ : Disk} {calls : List Call}
    (hcalls : ∀ c ∈ calls, c.Timely) (hlength : calls.length < 2 ^ 64) (hd : d.IsTree)
    (hkept : (keep p (runCalls ⟨path, .empty⟩ d₀ calls).2.1.book d).1 = .ok ()) :
    let b := (runCalls ⟨path, .empty⟩ d₀ calls).2.1.book
    let b' := (PatternStore.open (keep p b d).2 p).book
    b'.patterns = b.patterns ∧
      b'.policies = b.policies.mapValues (fun q =>
        { q with successRate := Json.reread q.successRate }) ∧
      ∀ id q, b.policies.get? id = some q → ∃ q', b'.policies.get? id = some q' ∧
        (Json.IsShort q.successRate → q' = q) ∧
        (1 / 10 ^ 5 ≤ Double.value q.successRate →
          |Double.value q'.successRate - Double.value q.successRate| ≤
            Double.value q.successRate / 2 ^ 51) := by
  intro b b'
  have hreadable : b.Readable := by
    have h := readable_enterAll hcalls hlength
    rw [← book_runCalls path d₀ calls] at h
    exact h
  have hb' : b' = b.reread := book_open_keep hreadable hd hkept
  refine ⟨by rw [hb']; rfl, by rw [hb']; rfl, fun id q hq => ?_⟩
  have hunit := (hreadable.policies id q hq).successRate
  refine ⟨q.reread, ?_, fun hshort => ?_, fun hleast => Json.reread_near hunit hleast⟩
  · rw [hb', PatternBook.reread, Dict.get?_mapValues, hq, Option.map_some]
  · unfold RetryPolicy.reread
    rw [Json.reread_eq hunit hshort]

/-! ### Outcomes of one failure's retries -/

/-- One failure that is entered, and then outcomes of its retries. -/
def retried (outcomes : List Bool) : List Call :=
  .record ⟨0, 0⟩ "login" "boom" "" none ::
    outcomes.map (.feedback (Signature.patternIdOf "boom" ""))

/-- The policy that is kept for a failure after some outcomes of its retries. -/
lemma get?_policies_retried (outcomes : List Bool) :
    (enterAll .empty (retried outcomes)).policies.get? (Signature.patternIdOf "boom" "") =
      some (outcomes.foldl RetryPolicy.recordOutcome
        (RetryPolicy.ofKind (Signature.patternIdOf "boom" "") (FailureKind.classify "boom"))) := by
  unfold retried
  rw [get?_policies_record_enterAll rfl rfl, reported_map_feedback]

/-- The average that is kept for a failure after some outcomes of its retries. -/
lemma successRate_retried {outcomes : List Bool} (hlength : outcomes.length < 2 ^ 64)
    {q : RetryPolicy}
    (hq : (enterAll .empty (retried outcomes)).policies.get? (Signature.patternIdOf "boom" "") =
      some q) :
    q.successRate = (Average.foldAll (0 : Float) 0 outcomes).2 := by
  rw [get?_policies_retried, Option.some.injEq] at hq
  exact hq ▸ congrArg Prod.snd (RetryPolicy.counted_foldl_ofKind hlength)

/-- The calls about one failure are told valid times. -/
lemma timely_retried (outcomes : List Bool) : ∀ c ∈ retried outcomes, c.Timely := by
  intro c hc
  rcases List.mem_cons.mp hc with rfl | hc
  · exact (by decide : Time.Instant.Valid ⟨0, 0⟩)
  · obtain ⟨success, -, rfl⟩ := List.mem_map.mp hc
    trivial

/-- On an empty disk a book can be kept. -/
lemma keep_empty (b : PatternBook) : (keep ⟨"patterns.json"⟩ b Disk.empty).1 = .ok () := rfl

/-- What a store has kept for a failure after some outcomes, and what is read back. -/
lemma reopen_retried (outcomes : List Bool) (hlength : outcomes.length < 1000) {b : PatternBook}
    (hb : b = (runCalls ⟨some ⟨"patterns.json"⟩, .empty⟩ Disk.empty (retried outcomes)).2.1.book) :
    ∃ q, b.policies.get? (Signature.patternIdOf "boom" "") = some q ∧
      (PatternStore.open (keep ⟨"patterns.json"⟩ b Disk.empty).2
        ⟨"patterns.json"⟩).book.policies.get? (Signature.patternIdOf "boom" "") = some q.reread ∧
      q.successRate = (Average.foldAll (0 : Float) 0 outcomes).2 := by
  rw [book_runCalls] at hb
  have hreadable : b.Readable := by
    rw [hb]
    refine readable_enterAll (timely_retried outcomes) ?_
    rw [retried, List.length_cons, List.length_map]
    omega
  have hq := get?_policies_retried outcomes
  rw [← hb] at hq
  refine ⟨_, hq, ?_, successRate_retried (by omega) (hb ▸ hq)⟩
  rw [book_open_keep hreadable Disk.isTree_empty (keep_empty b), PatternBook.reread,
    Dict.get?_mapValues, hq, Option.map_some]

/-- After ten retries that fail and one that succeeds the average does not come back: its decimal
0.09090909090909091 has digits of more than 53 bits. -/
theorem not_open_keep_elevenRetries :
    let b := (runCalls ⟨some ⟨"patterns.json"⟩, .empty⟩ Disk.empty
      (retried (List.replicate 10 false ++ [true]))).2.1.book
    let b' := (PatternStore.open (keep ⟨"patterns.json"⟩ b Disk.empty).2 ⟨"patterns.json"⟩).book
    (keep ⟨"patterns.json"⟩ b Disk.empty).1 = .ok () ∧
      ∃ q q', b.policies.get? (Signature.patternIdOf "boom" "") = some q ∧
        b'.policies.get? (Signature.patternIdOf "boom" "") = some q' ∧
        q.successRate.toBits = 0x3fb745d1745d1746 ∧ q'.successRate.toBits = 0x3fb745d1745d1747 := by
  obtain ⟨q, hq, hq', hrate⟩ := reopen_retried (List.replicate 10 false ++ [true]) (by decide) rfl
  refine ⟨keep_empty _, q, q.reread, hq, hq', ?_, ?_⟩
  · rw [hrate]
    decide +kernel
  · have hreread : q.reread.successRate = Json.reread q.successRate := rfl
    rw [hreread, hrate]
    decide +kernel

/-- After a retry that succeeds the policy comes back with its average, which is one. -/
theorem open_keep_oneRetry :
    let b := (runCalls ⟨some ⟨"patterns.json"⟩, .empty⟩ Disk.empty (retried [true])).2.1.book
    let b' := (PatternStore.open (keep ⟨"patterns.json"⟩ b Disk.empty).2 ⟨"patterns.json"⟩).book
    (∀ c ∈ retried [true], c.Timely) ∧ (retried [true]).length < 2 ^ 64 ∧ Disk.empty.IsTree ∧
      (keep ⟨"patterns.json"⟩ b Disk.empty).1 = .ok () ∧ b'.patterns = b.patterns ∧
      ∃ q, b.policies.get? (Signature.patternIdOf "boom" "") = some q ∧ q.successRate = 1 ∧
        b'.policies.get? (Signature.patternIdOf "boom" "") = some q := by
  obtain ⟨hpatterns, -, hsame⟩ := open_keep (timely_retried [true]) (by norm_num [retried])
    Disk.isTree_empty (keep_empty (runCalls ⟨some ⟨"patterns.json"⟩, .empty⟩ Disk.empty
      (retried [true])).2.1.book)
  obtain ⟨q, hq, -, hrate⟩ := reopen_retried [true] (by decide) rfl
  obtain ⟨q', hq', hcomes, -⟩ := hsame _ q hq
  have hshort : Json.IsShort q.successRate := by
    rw [hrate]
    decide +kernel
  refine ⟨timely_retried _, by norm_num [retried], Disk.isTree_empty, keep_empty _, hpatterns, q,
    hq, ?_, hcomes hshort ▸ hq'⟩
  rw [hrate]
  decide +kernel

end PatternStore

end Retrial

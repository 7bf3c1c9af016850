import Retrial.Pattern.Book
import Retrial.Proofs.Collection.Dict
import Retrial.Proofs.Json.Brackets
import Retrial.Proofs.Json.Reals
import Retrial.Proofs.Time.Text

/-!
# Pattern books in records

A pattern book is read back from its text with all its patterns and policies
(`PatternBook.decode_prettyText`), provided that its delays are numbers of 64 bits, its instants are
valid and its averages lie between zero and one.  Everything comes back as it was but
for the averages, which come back as the reader makes them of their text.
-/

namespace Retrial

open Json (Reads Value)

/-! ### Sets and dictionaries -/

/-- A set of names is read back. -/
lemma NameSet.reads (s : NameSet) : Reads NameSet.codec.read (NameSet.codec.write s) s := by
  have hitems : List.Forall₂ (Reads Json.readString) (s.toList.map Value.text) s.toList := by
    rw [List.forall₂_map_left_iff]
    exact List.forall₂_same.mpr fun name _ => Json.reads_string name
  have hfold : s.toList.foldl NameSet.add Dict.empty = s := by
    refine Eq.trans ?_ (Dict.foldl_insert_entries s)
    exact List.foldl_map
  have hread : Reads NameSet.codec.read (NameSet.codec.write s)
      (s.toList.foldl NameSet.add Dict.empty) := Json.reads_fold hitems
  rw [hfold] at hread
  exact hread

/-- A dictionary is read back as what its contents are read as. -/
lemma Dict.reads {α : Type} {c : Json.Codec α} {f : α → α} {d : Dict α}
    (h : ∀ e ∈ d.entries, Reads c.read (c.write e.2) (f e.2)) :
    Reads (Dict.codec c).read ((Dict.codec c).write d) (d.mapValues f) := by
  have hentries : List.Forall₂ (fun (g : String × Value) (e : String × α) =>
      e.1 = g.1 ∧ Reads c.read g.2 e.2) (d.entries.map fun e => (e.1, c.write e.2))
      (d.mapValues f).entries := by
    unfold Dict.mapValues
    rw [List.forall₂_map_left_iff, List.forall₂_map_right_iff]
    exact List.forall₂_same.mpr fun e he => ⟨rfl, h e he⟩
  have hread : Reads (Dict.codec c).read ((Dict.codec c).write d)
      ((d.mapValues f).entries.foldl (fun d e => d.insert e.1 e.2) Dict.empty) :=
    Json.reads_entries hentries
  rw [Dict.foldl_insert_entries] at hread
  exact hread

/-! ### Patterns -/

/-- The pattern can be read back: its instant is valid. -/
structure Pattern.Readable (p : Pattern) : Prop where
  lastSeen : p.lastSeen.Valid

/-- A pattern is read back. -/
lemma Pattern.reads {p : Pattern} (h : p.Readable) :
    Reads Pattern.codec.read (Pattern.codec.write p) p := by
  have hkind := Json.reads_choice (FailureKind.ofName?_name p.kind)
  have hread : Reads Pattern.codec.read (Pattern.codec.write p)
      { p with frequency := .ofNat p.frequency.toNat } :=
    @Json.reads_structure Pattern
    [String, FailureKind, String, Nat, NameSet, Time.Instant, Option String] _ _ _ p
    (p.patternId, p.kind, p.signature, p.frequency.toNat, p.affectedTests, p.lastSeen,
      p.suggestedFix, ())
    ⟨Json.reads_string _, hkind, Json.reads_string _, Json.reads_nat le_rfl p.frequency.toNat_lt,
      NameSet.reads _, Time.reads_instant h.lastSeen, Json.reads_optional_string _, trivial⟩
    (by decide)
  rw [Counter.ofNat_toNat] at hread
  exact hread

/-! ### Policies -/

/-- The policy can be read back: its delays are numbers of 64 bits, and its average lies between
zero and one. -/
structure RetryPolicy.Readable (q : RetryPolicy) : Prop where
  baseDelay : q.baseDelayMs < 2 ^ 64
  maxDelay : q.maxDelayMs < 2 ^ 64
  successRate : Double.InUnit q.successRate

/-- The policy with its average as it is read from its text. -/
def RetryPolicy.reread (q : RetryPolicy) : RetryPolicy :=
  { q with successRate := Json.reread q.successRate }

/-- A policy is read back, but for its average. -/
lemma RetryPolicy.reads {q : RetryPolicy} (h : q.Readable) :
    Reads RetryPolicy.codec.read (RetryPolicy.codec.write q) q.reread := by
  have hbackoff := Json.reads_choice (Backoff.ofName?_name q.backoff)
  have hread : Reads RetryPolicy.codec.read (RetryPolicy.codec.write q)
      { q.reread with
        maxRetries := UInt32.ofNat q.maxRetries.toNat
        totalApplied := .ofNat q.totalApplied.toNat } :=
    @Json.reads_structure RetryPolicy
    [String, Nat, Backoff, Nat, Nat, Nat, Float] _ _ _ q
    (q.patternId, q.maxRetries.toNat, q.backoff, q.baseDelayMs, q.maxDelayMs,
      q.totalApplied.toNat, Json.reread q.successRate, ())
    ⟨Json.reads_string _, Json.reads_nat (by norm_num) q.maxRetries.toNat_lt, hbackoff,
      Json.reads_nat le_rfl h.baseDelay, Json.reads_nat le_rfl h.maxDelay,
      Json.reads_nat le_rfl q.totalApplied.toNat_lt, Json.reads_real h.successRate, trivial⟩
    (by decide)
  rw [UInt32.ofNat_toNat, Counter.ofNat_toNat] at hread
  exact hread

/-! ### Books -/

/-- The book can be read back. -/
structure PatternBook.Readable (b : PatternBook) : Prop where
  patterns : ∀ id p, b.patterns.get? id = some p → p.Readable
  policies : ∀ id q, b.policies.get? id = some q → q.Readable

/-- The book with its averages as they are read from their texts. -/
def PatternBook.reread (b : PatternBook) : PatternBook :=
  ⟨b.patterns, b.policies.mapValues RetryPolicy.reread⟩

/-- A book is read back, but for the averages. -/
lemma PatternBook.reads {b : PatternBook} (h : b.Readable) :
    Reads PatternBook.codec.read (PatternBook.codec.write b) b.reread := by
  have hpatterns : Reads (Dict.codec Pattern.codec).read
      ((Dict.codec Pattern.codec).write b.patterns) (b.patterns.mapValues id) :=
    Dict.reads fun e he => Pattern.reads (h.patterns e.1 e.2 (Dict.mem_entries.mp he))
  have hpolicies : Reads (Dict.codec RetryPolicy.codec).read
      ((Dict.codec RetryPolicy.codec).write b.policies) (b.policies.mapValues RetryPolicy.reread) :=
    Dict.reads fun e he => RetryPolicy.reads (h.policies e.1 e.2 (Dict.mem_entries.mp he))
  rw [Dict.mapValues_id] at hpatterns
  exact @Json.reads_structure PatternBook [Dict Pattern, Dict RetryPolicy] _ _ _ b
    (b.patterns, b.policies.mapValues RetryPolicy.reread, ()) ⟨hpatterns, hpolicies, trivial⟩
    (by decide)

/-- The text of a book is read as the book, but for the averages. -/
theorem PatternBook.decode_prettyText {b : PatternBook} (h : b.Readable) :
    Json.decode PatternBook.codec.read (Text.glyphs (PatternBook.codec.prettyText b)) =
      .ok b.reread :=
  Json.decode_prettyText (PatternBook.reads h)

end Retrial

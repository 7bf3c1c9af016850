import Mathlib
import Retrial.Failure.Signature

/-!
# Replacing shapes

What replacing does to a text, whatever the shape: it goes piece by piece where the shape does not
reach across (`replaceFrom_append`), leaves alone what the shape spares (`infix_replaceAll`), and
makes up nothing but marks (`infix_of_infix_replaceFrom`).
-/

namespace Retrial.Signature

variable {shape : Shape} {mark : List Char}

@[simp] lemma replaceFrom_nil (n : Nat) (before : Option Char) :
    replaceFrom shape mark n before [] = [] := by
  cases n <;> rfl

/-- A character where the shape is not there stays. -/
lemma replaceFrom_of_eq_zero {before : Option Char} {c : Char} {cs : List Char}
    (h : shape before (c :: cs) = 0) :
    replaceFrom shape mark 0 before (c :: cs) = c :: replaceFrom shape mark 0 (some c) cs := by
  rw [replaceFrom, h]

/-- What the shape covers becomes a mark. -/
lemma replaceFrom_of_eq_succ {before : Option Char} {c : Char} {cs : List Char} {n : Nat}
    (h : shape before (c :: cs) = n + 1) :
    replaceFrom shape mark 0 before (c :: cs) = mark ++ replaceFrom shape mark n (some c) cs := by
  rw [replaceFrom, h]

/-- What comes before a text matters only through where the shape starts. -/
lemma replaceFrom_before_congr {before before' : Option Char} {cs : List Char}
    (h : shape before cs = shape before' cs) :
    replaceFrom shape mark 0 before cs = replaceFrom shape mark 0 before' cs := by
  cases cs with
  | nil => rfl
  | cons c cs => rw [replaceFrom, replaceFrom, h]

/-! ### Piece by piece -/

/-- The last character of a text that follows a character. -/
lemma getLast?_cons_or (c : Char) (cs : List Char) (before : Option Char) :
    (c :: cs).getLast?.or before = cs.getLast?.or (some c) := by
  rw [List.getLast?_cons]
  cases cs.getLast? <;> rfl

/-- Where the shape does not reach from one part of a text into the next, the parts are replaced one
after the other.  The shape still sees the next part from the first one. -/
lemma replaceFrom_append {rest : List Char}
    (h : ∀ before cs, shape before (cs ++ rest) ≤ cs.length) {n : Nat} {cs : List Char}
    (hn : n ≤ cs.length) (before : Option Char) :
    replaceFrom shape mark n before (cs ++ rest) =
      replaceFrom (fun before cs => shape before (cs ++ rest)) mark n before cs ++
        replaceFrom shape mark 0 (cs.getLast?.or before) rest := by
  induction cs generalizing n before with
  | nil =>
    obtain rfl : n = 0 := Nat.le_zero.mp hn
    rfl
  | cons c cs ih =>
    rw [getLast?_cons_or, List.cons_append]
    cases n with
    | succ n => exact ih (Nat.le_of_succ_le_succ hn) (some c)
    | zero =>
      cases hcover : shape before (c :: (cs ++ rest)) with
      | zero =>
        have hseen : replaceFrom (fun before cs => shape before (cs ++ rest)) mark 0 before
            (c :: cs) = c :: replaceFrom (fun before cs => shape before (cs ++ rest)) mark 0
              (some c) cs := replaceFrom_of_eq_zero hcover
        rw [replaceFrom_of_eq_zero hcover, hseen, ih (Nat.zero_le _), List.cons_append]
      | succ n =>
        have hreach : shape before (c :: (cs ++ rest)) ≤ cs.length + 1 := h before (c :: cs)
        rw [hcover] at hreach
        have hseen : replaceFrom (fun before cs => shape before (cs ++ rest)) mark 0 before
            (c :: cs) = mark ++ replaceFrom (fun before cs => shape before (cs ++ rest)) mark n
              (some c) cs := replaceFrom_of_eq_succ hcover
        rw [replaceFrom_of_eq_succ hcover, hseen, ih (Nat.le_of_succ_le_succ hreach),
          List.append_assoc]

/-- A part in which the shape starts nowhere stays. -/
lemma replaceFrom_spared {cs rest : List Char} {before : Option Char}
    (h : ∀ us vs, us ++ vs = cs → vs ≠ [] → shape (us.getLast?.or before) (vs ++ rest) = 0) :
    replaceFrom shape mark 0 before (cs ++ rest) =
      cs ++ replaceFrom shape mark 0 (cs.getLast?.or before) rest := by
  induction cs generalizing before with
  | nil => rfl
  | cons c cs ih =>
    have hhere : shape before (c :: (cs ++ rest)) = 0 := h [] (c :: cs) rfl (List.cons_ne_nil _ _)
    rw [List.cons_append, replaceFrom_of_eq_zero hhere, getLast?_cons_or, List.cons_append,
      ih fun us vs hcs hvs => ?_]
    have hlater := h (c :: us) vs (congrArg (c :: ·) hcs) hvs
    rwa [getLast?_cons_or] at hlater

/-- A text in which the shape starts nowhere stays. -/
lemma replaceFrom_eq_self {cs : List Char} {before : Option Char}
    (h : ∀ us vs, us ++ vs = cs → vs ≠ [] → shape (us.getLast?.or before) vs = 0) :
    replaceFrom shape mark 0 before cs = cs := by
  have hspared : replaceFrom shape mark 0 before (cs ++ []) =
      cs ++ replaceFrom shape mark 0 (cs.getLast?.or before) [] :=
    replaceFrom_spared fun us vs hcs hvs => by
      rw [List.append_nil]
      exact h us vs hcs hvs
  rwa [replaceFrom_nil, List.append_nil] at hspared

/-- Replacing does not mind a change of characters that neither the shape nor the mark sees. -/
lemma replaceFrom_map {f : Char → Char} (hmark : mark.map f = mark)
    (h : ∀ before cs, shape (before.map f) (cs.map f) = shape before cs) (n : Nat)
    (before : Option Char) (cs : List Char) :
    replaceFrom shape mark n (before.map f) (cs.map f) =
      (replaceFrom shape mark n before cs).map f := by
  induction cs generalizing n before with
  | nil => simp
  | cons c cs ih =>
    rw [List.map_cons]
    cases n with
    | succ n => exact ih n (some c)
    | zero =>
      have hsame : shape (before.map f) (f c :: cs.map f) = shape before (c :: cs) :=
        h before (c :: cs)
      cases hcover : shape before (c :: cs) with
      | zero =>
        rw [replaceFrom_of_eq_zero hcover, replaceFrom_of_eq_zero (hsame.trans hcover),
          List.map_cons, ← ih 0 (some c), Option.map_some]
      | succ n =>
        rw [replaceFrom_of_eq_succ hcover, replaceFrom_of_eq_succ (hsame.trans hcover),
          List.map_append, hmark, ← ih n (some c), Option.map_some]

/-! ### Words -/

/-- The shape never covers a part of the word: it does not reach into it from before, and it does
not start inside it. -/
structure Spares (shape : Shape) (word : List Char) : Prop where
  reach : ∀ before cs rest, shape before (cs ++ (word ++ rest)) ≤ cs.length
  inside : ∀ before rest us vs, us ++ vs = word → vs ≠ [] →
    shape (us.getLast?.or before) (vs ++ rest) = 0

/-- A word that the shape spares is still there. -/
lemma infix_replaceAll {word cs : List Char} (h : Spares shape word) (hword : word <:+: cs) :
    word <:+: replaceAll shape mark cs := by
  obtain ⟨us, vs, rfl⟩ := hword
  unfold replaceAll
  rw [List.append_assoc, replaceFrom_append (fun before cs => h.reach before cs vs) (Nat.zero_le _),
    replaceFrom_spared (h.inside _ vs)]
  exact ⟨_, _, (List.append_assoc _ _ _)⟩

/-- A start with no character of the mark has not been made up. -/
lemma prefix_of_prefix_replaceFrom {word : List Char} (hword : ∀ c ∈ word, c ∉ mark)
    (hmark : mark ≠ []) {before : Option Char} {cs : List Char}
    (h : word <+: replaceFrom shape mark 0 before cs) : word <+: cs := by
  induction word generalizing before cs with
  | nil => exact List.nil_prefix
  | cons w word ih =>
    obtain ⟨hw, hword⟩ := List.forall_mem_cons.mp hword
    cases cs with
    | nil =>
      rw [replaceFrom_nil] at h
      exact h
    | cons c cs =>
      cases hcover : shape before (c :: cs) with
      | zero =>
        rw [replaceFrom_of_eq_zero hcover, List.cons_prefix_cons] at h
        exact List.cons_prefix_cons.mpr ⟨h.1, ih hword h.2⟩
      | succ n =>
        obtain ⟨m, ms, rfl⟩ := List.exists_cons_of_ne_nil hmark
        rw [replaceFrom_of_eq_succ hcover, List.cons_append, List.cons_prefix_cons] at h
        exact absurd (h.1 ▸ List.mem_cons_self) hw

/-- A word without the characters of what stands before lies behind that. -/
lemma infix_of_infix_append {word us vs : List Char} (hne : word ≠ [])
    (hword : ∀ c ∈ word, c ∉ us) (h : word <:+: us ++ vs) : word <:+: vs := by
  induction us with
  | nil => exact h
  | cons u us ih =>
    obtain ⟨w, ws, rfl⟩ := List.exists_cons_of_ne_nil hne
    rw [List.cons_append, List.infix_cons_iff] at h
    obtain hstart | hlater := h
    · rw [List.cons_prefix_cons] at hstart
      exact absurd (hstart.1 ▸ List.mem_cons_self) (hword w List.mem_cons_self)
    · exact ih (fun c hc hmem => hword c hc (List.mem_cons_of_mem u hmem)) hlater

/-- A word with no character of the mark has not been made up. -/
lemma infix_of_infix_replaceFrom {word : List Char} (hne : word ≠ [])
    (hword : ∀ c ∈ word, c ∉ mark) (hmark : mark ≠ []) {n : Nat} {before : Option Char}
    {cs : List Char} (h : word <:+: replaceFrom shape mark n before cs) : word <:+: cs := by
  induction cs generalizing n before with
  | nil =>
    rw [replaceFrom_nil] at h
    exact h
  | cons c cs ih =>
    cases n with
    | succ n => exact List.infix_cons (ih h)
    | zero =>
      cases hcover : shape before (c :: cs) with
      | succ n =>
        rw [replaceFrom_of_eq_succ hcover] at h
        exact List.infix_cons (ih (infix_of_infix_append hne hword h))
      | zero =>
        have hstarts : word <+: replaceFrom shape mark 0 before (c :: cs) → word <+: c :: cs :=
          prefix_of_prefix_replaceFrom hword hmark
        rw [replaceFrom_of_eq_zero hcover] at h hstarts
        obtain hstart | hlater := List.infix_cons_iff.mp h
        · exact (hstarts hstart).isInfix
        · exact List.infix_cons (ih hlater)

/-- A word that the shape spares, with no character of the mark, is there after replacing exactly if
it was there before. -/
lemma infix_replaceAll_iff {word cs : List Char} (h : Spares shape word) (hne : word ≠ [])
    (hword : ∀ c ∈ word, c ∉ mark) (hmark : mark ≠ []) :
    word <:+: replaceAll shape mark cs ↔ word <:+: cs :=
  ⟨infix_of_infix_replaceFrom hne hword hmark, infix_replaceAll h⟩

end Retrial.Signature

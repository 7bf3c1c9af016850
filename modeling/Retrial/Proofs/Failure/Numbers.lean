import Retrial.Proofs.Failure.Shape

/-!
# What numbers leave of a text

What numbers leave of a text is its *frame*: the text with one placeholder for each run of digits
(`unnumbered`).  Replacing the numbers of a text keeps nothing but its frame (`replaceAll_number`),
and the frame of the lower-cased text is the lower case of the frame (`unnumbered_lowercaseAfter`):
digits have no case, and no case of a letter is a digit.
-/

namespace Retrial.Signature

open Text

/-! ### Frames -/

/-- The text with one placeholder for each run of digits, from inside or outside of a run. -/
def unnumberedFrom : Bool → List Char → List (Option Char)
  | _, [] => []
  | inRun, c :: cs =>
    if isDecimal c then (if inRun then [] else [none]) ++ unnumberedFrom true cs
    else some c :: unnumberedFrom false cs

/-- The text with one placeholder for each run of digits. -/
def unnumbered (cs : List Char) : List (Option Char) := unnumberedFrom false cs

/-- A frame as a text. -/
def render (frame : List (Option Char)) : List Char :=
  frame.flatMap fun slot => (slot.map fun c => [c]).getD "[NUM]".toList

/-- Digits go into their run. -/
lemma unnumberedFrom_of_decimal {c : Char} (h : isDecimal c = true) (inRun : Bool)
    (cs : List Char) :
    unnumberedFrom inRun (c :: cs) = (if inRun then [] else [none]) ++ unnumberedFrom true cs :=
  if_pos h

/-- Other characters stay. -/
lemma unnumberedFrom_of_not_decimal {c : Char} (h : isDecimal c = false) (inRun : Bool)
    (cs : List Char) : unnumberedFrom inRun (c :: cs) = some c :: unnumberedFrom false cs :=
  if_neg (by simp [h])

/-- A text without digits stays, and ends a run. -/
lemma unnumberedFrom_append {cs : List Char} (h : ∀ c ∈ cs, isDecimal c = false) (hne : cs ≠ [])
    (inRun : Bool) (rest : List Char) :
    unnumberedFrom inRun (cs ++ rest) = cs.map some ++ unnumberedFrom false rest := by
  induction cs generalizing inRun with
  | nil => exact absurd rfl hne
  | cons c cs ih =>
    obtain ⟨hc, hcs⟩ := List.forall_mem_cons.mp h
    rw [List.cons_append, unnumberedFrom_of_not_decimal hc, List.map_cons, List.cons_append]
    cases cs with
    | nil => rfl
    | cons d cs => rw [ih hcs (List.cons_ne_nil _ _)]

/-- The frame of a first part is the first part of the frame. -/
lemma unnumberedFrom_take_prefix (inRun : Bool) (n : Nat) (cs : List Char) :
    unnumberedFrom inRun (cs.take n) <+: unnumberedFrom inRun cs := by
  induction cs generalizing inRun n with
  | nil => simp
  | cons c cs ih =>
    cases n with
    | zero => exact List.nil_prefix
    | succ n =>
      rw [List.take_succ_cons]
      cases hc : isDecimal c with
      | true =>
        rw [unnumberedFrom_of_decimal hc, unnumberedFrom_of_decimal hc]
        exact (List.prefix_append_right_inj _).mpr (ih true n)
      | false =>
        rw [unnumberedFrom_of_not_decimal hc, unnumberedFrom_of_not_decimal hc]
        exact List.cons_prefix_cons.mpr ⟨rfl, ih false n⟩

/-- Replacing numbers leaves the frame, inside of a run and outside. -/
lemma replaceFrom_number (before : Option Char) (cs : List Char) :
    replaceFrom numberShape "[NUM]".toList (cs.takeWhile isDecimal).length before cs =
        render (unnumberedFrom true cs) ∧
      replaceFrom numberShape "[NUM]".toList 0 before cs = render (unnumberedFrom false cs) := by
  induction cs generalizing before with
  | nil => exact ⟨replaceFrom_nil _ _, replaceFrom_nil _ _⟩
  | cons c cs ih =>
    obtain ⟨hinside, houtside⟩ := ih (some c)
    cases hc : isDecimal c with
    | true =>
      have hcover : numberShape before (c :: cs) = (cs.takeWhile isDecimal).length + 1 := by
        unfold numberShape
        rw [List.takeWhile_cons_of_pos hc, List.length_cons]
      rw [List.takeWhile_cons_of_pos hc, List.length_cons, replaceFrom_of_eq_succ hcover,
        unnumberedFrom_of_decimal hc, unnumberedFrom_of_decimal hc]
      exact ⟨hinside, congrArg ("[NUM]".toList ++ ·) hinside⟩
    | false =>
      have hrun : (c :: cs).takeWhile isDecimal = [] :=
        List.takeWhile_cons_of_neg (by simp [hc])
      have hcover : numberShape before (c :: cs) = 0 := congrArg List.length hrun
      rw [hrun, List.length_nil, replaceFrom_of_eq_zero hcover, unnumberedFrom_of_not_decimal hc,
        unnumberedFrom_of_not_decimal hc]
      exact ⟨congrArg (c :: ·) houtside, congrArg (c :: ·) houtside⟩

/-- Replacing numbers leaves the frame. -/
lemma replaceAll_number (cs : List Char) :
    replaceAll numberShape "[NUM]".toList cs = render (unnumbered cs) :=
  (replaceFrom_number none cs).2

/-- No digit is left in a frame. -/
lemma isDecimal_of_mem_unnumberedFrom {c : Char} {inRun : Bool} {cs : List Char}
    (h : some c ∈ unnumberedFrom inRun cs) : isDecimal c = false := by
  induction cs generalizing inRun with
  | nil => cases h
  | cons d cs ih =>
    cases hd : isDecimal d with
    | true =>
      rw [unnumberedFrom_of_decimal hd, List.mem_append] at h
      obtain hplace | hlater := h
      · split_ifs at hplace
        · cases hplace
        · cases List.mem_singleton.mp hplace
      · exact ih hlater
    | false =>
      rw [unnumberedFrom_of_not_decimal hd, List.mem_cons] at h
      obtain hhere | hlater := h
      · obtain rfl := Option.some.inj hhere
        exact hd
      · exact ih hlater

/-- No digit is left in a reduced text. -/
lemma isDecimal_of_mem_reduce {c : Char} {cs : List Char} (h : c ∈ reduce cs) :
    isDecimal c = false := by
  unfold reduce at h
  rw [replaceAll_number, render, List.mem_flatMap] at h
  obtain ⟨slot, hslot, hc⟩ := h
  cases slot with
  | none =>
    have hmark : ∀ d ∈ "[NUM]".toList, isDecimal d = false := by simp [isDecimal]
    exact hmark c hc
  | some d =>
    obtain rfl := List.mem_singleton.mp hc
    exact isDecimal_of_mem_unnumberedFrom hslot

/-! ### Frames in lower case -/

/-- Whether the first slot of a frame that is not case-ignorable is cased. -/
def frameMeets : List (Option Char) → Bool
  | [] => false
  | none :: _ => false
  | some c :: frame => if isCaseIgnorable c then frameMeets frame else isCased c

/-- Digits end the search for a cased character. -/
lemma meetsCased_of_decimal {c : Char} (h : isDecimal c = true) (cs : List Char) :
    meetsCased (c :: cs) = false := by
  rw [meetsCased_cons, isCaseIgnorable_of_isDecimal h, isCased_of_isDecimal h]
  rfl

/-- The search for a cased character depends on the frame alone. -/
lemma meetsCased_eq (cs : List Char) : meetsCased cs = frameMeets (unnumbered cs) := by
  induction cs with
  | nil => rfl
  | cons c cs ih =>
    unfold unnumbered at ih ⊢
    cases hc : isDecimal c with
    | true =>
      rw [meetsCased_of_decimal hc, unnumberedFrom_of_decimal hc]
      rfl
    | false =>
      rw [meetsCased_cons, ih, unnumberedFrom_of_not_decimal hc]
      rfl

/-- The lower case of a frame, given whether a cased character comes before. -/
def lowerFrame (cased : Bool) : List (Option Char) → List (Option Char)
  | [] => []
  | none :: frame => none :: lowerFrame false frame
  | some c :: frame =>
    (lowerForm cased (frameMeets frame) c).map some ++
      lowerFrame (if isCaseIgnorable c then cased else isCased c) frame

/-- The frame of a lower-cased text is the lower case of the frame. -/
lemma unnumberedFrom_lowercaseAfter {inRun : Bool} {before : List Char}
    (hrun : inRun = true → meetsCased before = false) (cs : List Char) :
    unnumberedFrom inRun (lowercaseAfter before cs) =
      lowerFrame (meetsCased before) (unnumberedFrom inRun cs) := by
  induction cs generalizing inRun before with
  | nil => rfl
  | cons c cs ih =>
    cases hc : isDecimal c with
    | true =>
      have hbefore := meetsCased_of_decimal hc before
      rw [lowercaseAfter_cons, lowerForm_of_inert (Or.inl hc), List.singleton_append,
        unnumberedFrom_of_decimal hc, unnumberedFrom_of_decimal hc, ih fun _ => hbefore, hbefore]
      cases inRun with
      | true =>
        rw [hrun rfl]
        rfl
      | false => rfl
    | false =>
      have hplain : ∀ d ∈ lowerForm (meetsCased before) (meetsCased cs) c,
          isDecimal d = false := by
        intro d hd
        rw [← Bool.not_eq_true]
        intro hdigit
        obtain rfl := (mem_lowerForm_iff (Or.inl hdigit)).mp hd
        rw [hc] at hdigit
        cases hdigit
      have hrest : unnumberedFrom false (lowercaseAfter (c :: before) cs) =
          lowerFrame (meetsCased (c :: before)) (unnumberedFrom false cs) :=
        ih fun h => nomatch h
      rw [lowercaseAfter_cons, unnumberedFrom_append hplain lowerForm_ne_nil, hrest,
        unnumberedFrom_of_not_decimal hc, lowerFrame, meetsCased_cons, meetsCased_eq cs]
      rfl

/-- The frame of a lower-cased text depends on its frame alone. -/
lemma unnumbered_lowercaseAfter (before cs : List Char) :
    unnumbered (lowercaseAfter before cs) = lowerFrame (meetsCased before) (unnumbered cs) := by
  have hrun : false = true → meetsCased before = false := fun h => nomatch h
  exact unnumberedFrom_lowercaseAfter hrun cs

/-- How many characters a slot of a frame comes to. -/
def slotLength : Option Char → Nat
  | none => 5
  | some c => (plainLower c).length

/-- A frame in lower case is as long as its slots come to. -/
lemma length_render_lowerFrame (cased : Bool) (frame : List (Option Char)) :
    (render (lowerFrame cased frame)).length = (frame.map slotLength).sum := by
  have hrender : ∀ (cs : List Char) (frame : List (Option Char)),
      render (cs.map some ++ frame) = cs ++ render frame := by
    intro cs frame
    unfold render
    rw [List.flatMap_append, List.flatMap_map]
    simp
  induction frame generalizing cased with
  | nil => rfl
  | cons slot frame ih =>
    cases slot with
    | none =>
      have hmark : render (lowerFrame cased (none :: frame)) =
          "[NUM]".toList ++ render (lowerFrame false frame) := rfl
      rw [hmark, List.length_append, ih, List.map_cons, List.sum_cons]
      rfl
    | some c =>
      rw [lowerFrame, hrender, List.length_append, ih, List.map_cons, List.sum_cons, slotLength,
        length_plainLower]

/-- Frames of which one begins the other are equal if they come to as many characters. -/
lemma eq_of_prefix_of_sum_eq {frame frame' : List (Option Char)} (h : frame <+: frame')
    (hsum : (frame.map slotLength).sum = (frame'.map slotLength).sum) : frame = frame' := by
  obtain ⟨rest, rfl⟩ := h
  rw [List.map_append, List.sum_append] at hsum
  cases rest with
  | nil => rw [List.append_nil]
  | cons slot rest =>
    have hpos : 0 < slotLength slot := by
      cases slot with
      | none => decide
      | some c => exact length_plainLower_pos c
    rw [List.map_cons, List.sum_cons] at hsum
    omega

end Retrial.Signature

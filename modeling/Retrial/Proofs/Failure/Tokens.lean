import Retrial.Proofs.Failure.Joins
import Retrial.Proofs.Failure.Stability

/-!
# Tokens of a message

A date, an identifier or a number that stands between spaces is a *token*.  Whatever a token of one
kind spells, the normal form of the failure has the mark of the kind in its place, and what stands
before and behind it is reduced as if the token were not there (`normalize_token`).

Spaces part a text for all three shapes and for lower-casing.  So it is enough that each kind's
shape covers a token as a whole, and that no shape that comes earlier takes a bite of it: no date
lies in an identifier, since its dashes stand too far apart, and neither a date nor an identifier in
a number, which has no dash.
-/

namespace Retrial.Signature

open Text

/-! ### What tokens spell -/

/-- As many decimal digits. -/
structure Digits (n : Nat) (ds : List Char) : Prop where
  length : ds.length = n
  decimal : ∀ d ∈ ds, isDecimal d = true

instance (n : Nat) (ds : List Char) : Decidable (Digits n ds) :=
  decidable_of_iff (ds.length = n ∧ ds.all isDecimal = true)
    ⟨fun h => ⟨h.1, List.all_eq_true.mp h.2⟩, fun h => ⟨h.1, List.all_eq_true.mpr h.2⟩⟩

/-- The zone of a timestamp: none, `Z`, or an offset of hours and minutes with or without a
colon. -/
inductive IsZone : List Char → Prop
  | absent : IsZone []
  | utc {z : Char} (hz : z ∈ ['Z', 'z']) : IsZone [z]
  | offset {sign : Char} {hours minutes : List Char} (hsign : sign ∈ ['+', '-'])
      (hhours : Digits 2 hours) (hminutes : Digits 2 minutes) : IsZone (sign :: (hours ++ minutes))
  | offsetColon {sign : Char} {hours minutes : List Char} (hsign : sign ∈ ['+', '-'])
      (hhours : Digits 2 hours) (hminutes : Digits 2 minutes) :
      IsZone (sign :: (hours ++ ':' :: minutes))

/-- The seconds of a timestamp: none, whole ones, or with a fraction of any length. -/
inductive IsSeconds : List Char → Prop
  | absent : IsSeconds []
  | whole {seconds : List Char} (hseconds : Digits 2 seconds) : IsSeconds (':' :: seconds)
  | fraction {n : Nat} {seconds digits : List Char} (hseconds : Digits 2 seconds)
      (hdigits : Digits (n + 1) digits) : IsSeconds (':' :: (seconds ++ '.' :: digits))

/-- A date. -/
inductive IsDate : List Char → Prop
  | intro {year month day : List Char} (hyear : Digits 4 year) (hmonth : Digits 2 month)
      (hday : Digits 2 day) : IsDate (year ++ '-' :: (month ++ '-' :: day))

/-- A timestamp: a date, or a date with a time of day. -/
inductive IsTimestamp : List Char → Prop
  | date {date : List Char} (hdate : IsDate date) : IsTimestamp date
  | instant {date hours minutes seconds zone : List Char} {t : Char} (hdate : IsDate date)
      (ht : t ∈ ['T', 't']) (hhours : Digits 2 hours) (hminutes : Digits 2 minutes)
      (hseconds : IsSeconds seconds) (hzone : IsZone zone) :
      IsTimestamp (date ++ t :: (hours ++ ':' :: (minutes ++ (seconds ++ zone))))

/-- A hexadecimal digit in either case. -/
def isHex (c : Char) : Bool := isLowerHex c || ('A' ≤ c && c ≤ 'F')

/-- As many hexadecimal digits. -/
structure HexDigits (n : Nat) (ds : List Char) : Prop where
  length : ds.length = n
  hex : ∀ d ∈ ds, isHex d = true

/-- An identifier: five groups of hexadecimal digits. -/
inductive IsIdentifier : List Char → Prop
  | intro {a b c d e : List Char} (ha : HexDigits 8 a) (hb : HexDigits 4 b) (hc : HexDigits 4 c)
      (hd : HexDigits 4 d) (he : HexDigits 12 e) :
      IsIdentifier (a ++ '-' :: (b ++ '-' :: (c ++ '-' :: (d ++ '-' :: e))))

/-- The kinds of tokens. -/
inductive Token
  | timestamp
  | identifier
  | number
  deriving DecidableEq, Repr

/-- What stands for a token in a normal form. -/
def Token.mark : Token → String
  | .timestamp => "[DATE]"
  | .identifier => "[UUID]"
  | .number => "[NUM]"

/-- The texts that are a token of the kind. -/
def Token.Spells : Token → List Char → Prop
  | .timestamp => IsTimestamp
  | .identifier => IsIdentifier
  | .number => fun ds => ∃ n, Digits (n + 1) ds

/-! ### Lower case -/

/-- Characters of ASCII, and decimal digits, are lower-cased on their own. -/
abbrev Plain (c : Char) : Prop := c.toNat < 128 ∨ isDecimal c = true

/-- Digits are in lower case. -/
lemma Digits.map_toLower {n : Nat} {ds : List Char} (h : Digits n ds) :
    ds.map Char.toLower = ds := by
  refine (List.map_congr_left fun d hd => ?_).trans (List.map_id ds)
  by_cases hascii : d.toNat < 128
  · have hlower := lowerChar_of_inert (Or.inl (h.decimal d hd))
    rw [lowerChar_ascii hascii] at hlower
    exact (List.cons.inj hlower).1
  · exact toLower_of_beyond hascii

/-- Hexadecimal digits lie in ASCII, and are in lower case lower ones. -/
lemma ascii_of_isHex {c : Char} (h : isHex c = true) :
    c.toNat < 128 ∧ isLowerHex c.toLower = true := by
  have hascii : c.toNat < 128 := by
    simp only [isHex, isLowerHex, Char.isDigit, Bool.or_eq_true, Bool.and_eq_true,
      decide_eq_true_eq] at h
    obtain (⟨-, h⟩ | ⟨-, h⟩) | ⟨-, h⟩ := h
    · exact ascii_of_le h (by decide)
    · exact ascii_of_le h (by decide)
    · exact ascii_of_le h (by decide)
  refine ⟨hascii, ?_⟩
  have hall : ∀ n < 128, isHex (Char.ofNat n) = true →
      isLowerHex (Char.ofNat n).toLower = true := by decide
  exact forall_ascii (P := fun c => isHex c = true → isLowerHex c.toLower = true) hall hascii h

lemma Digits.plain {n : Nat} {ds : List Char} (h : Digits n ds) : ∀ d ∈ ds, Plain d :=
  fun d hd => Or.inr (h.decimal d hd)

lemma HexDigits.plain {n : Nat} {ds : List Char} (h : HexDigits n ds) : ∀ d ∈ ds, Plain d :=
  fun d hd => Or.inl (ascii_of_isHex (h.hex d hd)).1

/-- The marks between the parts of a token lie in ASCII. -/
lemma plain_of_mem {c : Char} {marks : List Char} (hc : c ∈ marks)
    (h : ∀ m ∈ marks, m.toNat < 128) : Plain c := Or.inl (h c hc)

lemma IsZone.plain {zone : List Char} (h : IsZone zone) : ∀ c ∈ zone, Plain c := by
  rcases h with _ | ⟨hz⟩ | ⟨hsign, hhours, hminutes⟩ | ⟨hsign, hhours, hminutes⟩
  · simp
  · exact List.forall_mem_singleton.mpr (plain_of_mem hz (by simp))
  · rw [List.forall_mem_cons, List.forall_mem_append]
    exact ⟨plain_of_mem hsign (by simp), hhours.plain, hminutes.plain⟩
  · rw [List.forall_mem_cons, List.forall_mem_append, List.forall_mem_cons]
    exact ⟨plain_of_mem hsign (by simp), hhours.plain, by decide, hminutes.plain⟩

lemma IsSeconds.plain {seconds : List Char} (h : IsSeconds seconds) :
    ∀ c ∈ seconds, Plain c := by
  rcases h with _ | ⟨hseconds⟩ | ⟨hseconds, hdigits⟩
  · simp
  · exact List.forall_mem_cons.mpr ⟨by decide, hseconds.plain⟩
  · rw [List.forall_mem_cons, List.forall_mem_append, List.forall_mem_cons]
    exact ⟨by decide, hseconds.plain, by decide, hdigits.plain⟩

lemma IsDate.plain {date : List Char} (h : IsDate date) : ∀ c ∈ date, Plain c := by
  obtain ⟨hyear, hmonth, hday⟩ := h
  rw [List.forall_mem_append, List.forall_mem_cons, List.forall_mem_append, List.forall_mem_cons]
  exact ⟨hyear.plain, by decide, hmonth.plain, by decide, hday.plain⟩

lemma IsTimestamp.plain {d : List Char} (h : IsTimestamp d) : ∀ c ∈ d, Plain c := by
  rcases h with ⟨hdate⟩ | ⟨hdate, ht, hhours, hminutes, hseconds, hzone⟩
  · exact hdate.plain
  · simp only [List.forall_mem_append, List.forall_mem_cons]
    exact ⟨hdate.plain, plain_of_mem ht (by simp), hhours.plain, by decide, hminutes.plain,
      hseconds.plain, hzone.plain⟩

lemma IsIdentifier.plain {d : List Char} (h : IsIdentifier d) : ∀ c ∈ d, Plain c := by
  obtain ⟨ha, hb, hc, hd, he⟩ := h
  simp only [List.forall_mem_append, List.forall_mem_cons]
  exact ⟨ha.plain, by decide, hb.plain, by decide, hc.plain, by decide, hd.plain, by decide,
    he.plain⟩

lemma Token.Spells.plain {kind : Token} {d : List Char} (h : kind.Spells d) :
    ∀ c ∈ d, Plain c := by
  cases kind with
  | timestamp => exact IsTimestamp.plain h
  | identifier => exact IsIdentifier.plain h
  | number =>
    obtain ⟨n, hdigits⟩ := h
    exact hdigits.plain

/-! ### Reading parts -/

/-- A separator that comes next is read. -/
@[simp] lemma afterChar?_cons_self (m : Char) (s : List Char) : afterChar? m (m :: s) = some s :=
  if_pos (beq_self_eq_true m)

/-- A separator that does not come next is not read. -/
lemma afterChar?_eq_none {m : Char} {s : List Char} (h : ∀ c ∈ s.head?, c ≠ m) :
    afterChar? m s = none := by
  cases s with
  | nil => rfl
  | cons c s => exact if_neg (by simpa using h c rfl)

/-- A reader takes off as many characters as it wants. -/
lemma after?_length_append {p : Char → Bool} {us : List Char} (h : ∀ c ∈ us, p c = true)
    (rest : List Char) : after? p us.length (us ++ rest) = some rest := by
  induction us with
  | nil => rfl
  | cons u us ih =>
    obtain ⟨hu, hus⟩ := List.forall_mem_cons.mp h
    rw [List.cons_append, List.length_cons, after?, if_pos hu, ih hus]

/-- An optional part that is there is read. -/
lemma afterOptional_of_some {part : List Char → Option (List Char)} {s rest : List Char}
    (h : part s = some rest) : afterOptional part s = rest := by
  unfold afterOptional
  rw [h, Option.getD_some]

/-- An optional part that is not there is passed over. -/
lemma afterOptional_of_none {part : List Char → Option (List Char)} {s : List Char}
    (h : part s = none) : afterOptional part s = s := by
  unfold afterOptional
  rw [h, Option.getD_none]

lemma Digits.after? {n : Nat} {ds : List Char} (h : Digits n ds) (rest : List Char) :
    after? isDecimal n (ds ++ rest) = some rest := by
  have hread := after?_length_append h.decimal rest
  rwa [h.length] at hread

lemma Digits.afterMarkTwo? {ds : List Char} (h : Digits 2 ds) (m : Char) (rest : List Char) :
    afterMarkTwo? m (m :: (ds ++ rest)) = some rest := by
  unfold Signature.afterMarkTwo?
  rw [afterChar?_cons_self, Option.bind_some, h.after? rest]

/-- Digits start with a digit. -/
lemma Digits.head {n : Nat} {ds : List Char} (h : Digits (n + 1) ds) (rest : List Char) :
    ∀ c ∈ (ds ++ rest).head?, isDecimal c = true := by
  obtain ⟨d, ds, rfl⟩ := List.exists_cons_of_length_eq_add_one h.length
  intro c hc
  obtain rfl := Option.some.inj hc
  exact h.decimal d List.mem_cons_self

/-- No separator comes where digits start. -/
lemma Digits.afterChar?_eq_none {n : Nat} {ds : List Char} (h : Digits (n + 1) ds) {m : Char}
    (hm : isDecimal m = false) (rest : List Char) : afterChar? m (ds ++ rest) = none := by
  refine Signature.afterChar?_eq_none fun c hc => ?_
  rintro rfl
  rw [h.head rest c hc] at hm
  cases hm

/-! ### Timestamps -/

/-- Signs have no case. -/
lemma toLower_sign {sign : Char} (h : sign ∈ ['+', '-']) : sign.toLower = sign := by
  obtain rfl | rfl := List.mem_pair.mp h
  · rfl
  · rfl

/-- The letter of a zone in lower case. -/
lemma toLower_zone {z : Char} (h : z ∈ ['Z', 'z']) : z.toLower = 'z' := by
  obtain rfl | rfl := List.mem_pair.mp h
  · rfl
  · rfl

/-- The letter before a time of day in lower case. -/
lemma toLower_time {t : Char} (h : t ∈ ['T', 't']) : t.toLower = 't' := by
  obtain rfl | rfl := List.mem_pair.mp h
  · rfl
  · rfl

/-- A zone in lower case starts with neither a digit nor the separator of a part before it. -/
lemma IsZone.head {zone : List Char} (h : IsZone zone) :
    ∀ c ∈ (zone.map Char.toLower).head?, isDecimal c = false ∧ c ≠ ':' ∧ c ≠ '.' := by
  have hsigns : ∀ {sign}, sign ∈ ['+', '-'] → isDecimal sign = false ∧ sign ≠ ':' ∧ sign ≠ '.' := by
    intro sign h
    obtain rfl | rfl := List.mem_pair.mp h
    · decide
    · decide
  intro c hc
  rcases h with _ | ⟨hz⟩ | ⟨hsign, -, -⟩ | ⟨hsign, -, -⟩
  · cases hc
  · obtain rfl := Option.some.inj hc
    rw [toLower_zone hz]
    decide
  · obtain rfl := Option.some.inj hc
    rw [toLower_sign hsign]
    exact hsigns hsign
  · obtain rfl := Option.some.inj hc
    rw [toLower_sign hsign]
    exact hsigns hsign

/-- Behind the sign and the hours of an offset, the minutes are read. -/
lemma afterZone?_sign {sign : Char} (hsign : sign ∈ ['+', '-']) {hours : List Char}
    (hhours : Digits 2 hours) (s : List Char) :
    afterZone? (sign :: (hours ++ s)) =
      after? isDecimal 2 (afterOptional (afterChar? ':') s) := by
  obtain ⟨hletter, hboth⟩ : sign ≠ 'z' ∧ (sign == '+' || sign == '-') = true := by
    obtain rfl | rfl := List.mem_pair.mp hsign
    · decide
    · decide
  have hnone : afterChar? 'z' (sign :: (hours ++ s)) = none :=
    afterChar?_eq_none fun c hc => Option.some.inj hc ▸ hletter
  unfold afterZone?
  rw [hnone]
  refine (if_pos hboth).trans ?_
  rw [hhours.after?, Option.bind_some]

/-- A zone is read as a whole. -/
lemma IsZone.after {zone : List Char} (h : IsZone zone) :
    afterOptional afterZone? (zone.map Char.toLower) = [] := by
  rcases h with _ | ⟨hz⟩ | ⟨hsign, hhours, hminutes⟩ | ⟨hsign, hhours, hminutes⟩
  · rfl
  · rw [List.map_singleton, toLower_zone hz]
    rfl
  · have hcolon := hminutes.afterChar?_eq_none (m := ':') (by decide) []
    have hread := hminutes.after? []
    rw [List.append_nil] at hcolon hread
    refine afterOptional_of_some ?_
    rw [List.map_cons, List.map_append, toLower_sign hsign, hhours.map_toLower,
      hminutes.map_toLower, afterZone?_sign hsign hhours, afterOptional_of_none hcolon, hread]
  · have hread := hminutes.after? []
    rw [List.append_nil] at hread
    have hcolon : ':'.toLower = ':' := rfl
    refine afterOptional_of_some ?_
    rw [List.map_cons, List.map_append, List.map_cons, toLower_sign hsign, hhours.map_toLower,
      hminutes.map_toLower, hcolon, afterZone?_sign hsign hhours,
      afterOptional_of_some (afterChar?_cons_self ':' _), hread]

/-- A fraction is read up to where its digits end. -/
lemma Digits.afterFraction? {n : Nat} {ds rest : List Char} (h : Digits (n + 1) ds)
    (hrest : ∀ c ∈ rest.head?, isDecimal c = false) :
    afterFraction? ('.' :: (ds ++ rest)) = some rest := by
  obtain ⟨d, ds, rfl⟩ := List.exists_cons_of_length_eq_add_one h.length
  obtain ⟨hd, hds⟩ := List.forall_mem_cons.mp h.decimal
  have hdrop : rest.dropWhile isDecimal = rest := by
    cases rest with
    | nil => rfl
    | cons c rest => exact List.dropWhile_cons_of_neg (by simp [hrest c rfl])
  unfold Signature.afterFraction?
  rw [afterChar?_cons_self, Option.bind_some, List.cons_append, Signature.after?, if_pos hd,
    Signature.after?, Option.map_some, List.dropWhile_append_of_pos hds, hdrop]

/-- The seconds are read as a whole, and no further. -/
lemma IsSeconds.after {seconds zone : List Char} (h : IsSeconds seconds) (hzone : IsZone zone) :
    afterOptional afterSeconds? (seconds.map Char.toLower ++ zone.map Char.toLower) =
      zone.map Char.toLower := by
  have hhead := hzone.head
  generalize zone.map Char.toLower = z at hhead
  have hcolon : ':'.toLower = ':' := rfl
  have hpoint : '.'.toLower = '.' := rfl
  rcases h with _ | ⟨hseconds⟩ | ⟨hseconds, hdigits⟩
  · refine afterOptional_of_none ?_
    unfold afterSeconds? afterMarkTwo?
    rw [List.map_nil, List.nil_append, afterChar?_eq_none fun c hc => (hhead c hc).2.1]
    rfl
  · have hnone : afterFraction? z = none := by
      unfold afterFraction?
      rw [afterChar?_eq_none fun c hc => (hhead c hc).2.2]
      rfl
    refine afterOptional_of_some ?_
    unfold afterSeconds?
    rw [List.map_cons, hseconds.map_toLower, hcolon, List.cons_append, hseconds.afterMarkTwo?,
      Option.map_some, afterOptional_of_none hnone]
  · have hfraction := hdigits.afterFraction? fun c hc => (hhead c hc).1
    refine afterOptional_of_some ?_
    unfold afterSeconds?
    rw [List.map_cons, List.map_append, List.map_cons, hseconds.map_toLower, hdigits.map_toLower,
      hcolon, hpoint, List.cons_append, List.append_assoc, hseconds.afterMarkTwo?, Option.map_some,
      List.cons_append, afterOptional_of_some hfraction]

/-- A date is in lower case. -/
lemma IsDate.map_toLower {date : List Char} (h : IsDate date) : date.map Char.toLower = date := by
  obtain ⟨hyear, hmonth, hday⟩ := h
  have hdash : '-'.toLower = '-' := rfl
  rw [List.map_append, List.map_cons, List.map_append, List.map_cons, hyear.map_toLower,
    hmonth.map_toLower, hday.map_toLower, hdash]

/-- A date is read, and then a time of day if there is one. -/
lemma IsDate.afterDate? {date : List Char} (h : IsDate date) (rest : List Char) :
    afterDate? (date ++ rest) = some (afterOptional afterTime? rest) := by
  obtain ⟨hyear, hmonth, hday⟩ := h
  unfold Signature.afterDate?
  rw [List.append_assoc, hyear.after?, Option.bind_some, List.cons_append, List.append_assoc,
    hmonth.afterMarkTwo?, Option.bind_some, List.cons_append, hday.afterMarkTwo?, Option.map_some]

/-- A timestamp is read as a whole. -/
lemma IsTimestamp.afterDate? {d : List Char} (h : IsTimestamp d) :
    afterDate? (d.map Char.toLower) = some [] := by
  rcases h with ⟨hdate⟩ | ⟨hdate, ht, hhours, hminutes, hseconds, hzone⟩
  · have hread := hdate.afterDate? []
    rwa [List.append_nil, ← hdate.map_toLower] at hread
  · have hcolon : ':'.toLower = ':' := rfl
    rw [List.map_append, List.map_cons, List.map_append, List.map_cons, List.map_append,
      List.map_append, hdate.map_toLower, hhours.map_toLower, hminutes.map_toLower, toLower_time ht,
      hcolon, hdate.afterDate?]
    refine congrArg some (afterOptional_of_some ?_)
    unfold afterTime?
    rw [hhours.afterMarkTwo?, Option.bind_some, hminutes.afterMarkTwo?, Option.map_some,
      hseconds.after hzone, hzone.after]

/-! ### Identifiers -/

/-- The groups of an identifier in lower case. -/
structure LowerHex (n : Nat) (ds : List Char) : Prop where
  length : ds.length = n
  hex : ∀ d ∈ ds, isLowerHex d = true

lemma HexDigits.map_toLower {n : Nat} {ds : List Char} (h : HexDigits n ds) :
    LowerHex n (ds.map Char.toLower) := by
  refine ⟨(List.length_map _).trans h.length, fun d hd => ?_⟩
  obtain ⟨c, hc, rfl⟩ := List.mem_map.mp hd
  exact (ascii_of_isHex (h.hex c hc)).2

lemma LowerHex.after? {n : Nat} {ds : List Char} (h : LowerHex n ds) (rest : List Char) :
    after? isLowerHex n (ds ++ rest) = some rest := by
  have hread := after?_length_append h.hex rest
  rwa [h.length] at hread

lemma LowerHex.afterGroup? {n : Nat} {ds : List Char} (h : LowerHex n ds) (rest : List Char) :
    afterGroup? n ('-' :: (ds ++ rest)) = some rest := by
  unfold Signature.afterGroup?
  rw [afterChar?_cons_self, Option.bind_some, h.after?]

/-- In a text that goes on behind a group and a dash, a dash is that one or comes later. -/
lemma LowerHex.dash_cases {n i : Nat} {ds rest : List Char} (h : LowerHex n ds)
    (hi : (ds ++ '-' :: rest)[i]? = some '-') :
    i = n ∨ n < i ∧ rest[i - (n + 1)]? = some '-' := by
  obtain ⟨rfl, hhex⟩ := h
  obtain hlt | rfl | hgt := Nat.lt_trichotomy i ds.length
  · rw [List.getElem?_append_left hlt] at hi
    exact absurd (hhex '-' (List.mem_of_getElem? hi)) (by decide)
  · exact Or.inl rfl
  · refine Or.inr ⟨hgt, ?_⟩
    rw [List.getElem?_append_right hgt.le] at hi
    obtain ⟨k, hk⟩ : ∃ k, i - ds.length = k + 1 := Nat.exists_eq_succ_of_ne_zero (by omega)
    rw [hk, List.getElem?_cons_succ] at hi
    rwa [Nat.sub_add_eq, hk]

/-- An identifier in lower case. -/
inductive IsLowerIdentifier : List Char → Prop
  | intro {a b c d e : List Char} (ha : LowerHex 8 a) (hb : LowerHex 4 b) (hc : LowerHex 4 c)
      (hd : LowerHex 4 d) (he : LowerHex 12 e) :
      IsLowerIdentifier (a ++ '-' :: (b ++ '-' :: (c ++ '-' :: (d ++ '-' :: e))))

lemma IsIdentifier.map_toLower {d : List Char} (h : IsIdentifier d) :
    IsLowerIdentifier (d.map Char.toLower) := by
  obtain ⟨ha, hb, hc, hd, he⟩ := h
  simp only [List.map_append, List.map_cons]
  exact ⟨ha.map_toLower, hb.map_toLower, hc.map_toLower, hd.map_toLower, he.map_toLower⟩

/-- An identifier is read as a whole. -/
lemma IsLowerIdentifier.afterUuid? {u : List Char} (h : IsLowerIdentifier u) :
    afterUuid? u = some [] := by
  obtain ⟨ha, hb, hc, hd, he⟩ := h
  have hlast := he.afterGroup? []
  rw [List.append_nil] at hlast
  unfold Signature.afterUuid?
  rw [ha.after?, Option.bind_some, hb.afterGroup?, Option.bind_some, hc.afterGroup?,
    Option.bind_some, hd.afterGroup?, Option.bind_some, hlast]

/-- Where the dashes of an identifier stand. -/
lemma IsLowerIdentifier.dash_mem {u : List Char} (h : IsLowerIdentifier u) {i : Nat}
    (hi : u[i]? = some '-') : i ∈ [8, 13, 18, 23] := by
  obtain ⟨ha, hb, hc, hd, he⟩ := h
  simp only [List.mem_cons, List.not_mem_nil, or_false]
  obtain rfl | ⟨h₁, hi⟩ := ha.dash_cases hi
  · omega
  obtain h₂ | ⟨h₂, hi⟩ := hb.dash_cases hi
  · omega
  obtain h₃ | ⟨h₃, hi⟩ := hc.dash_cases hi
  · omega
  obtain h₄ | ⟨h₄, hi⟩ := hd.dash_cases hi
  · omega
  exact absurd (he.hex '-' (List.mem_of_getElem? hi)) (by decide)

/-- What a reader leaves lies behind as many characters as it takes off. -/
lemma eq_drop_of_after? {p : Char → Bool} {n : Nat} {s rest : List Char}
    (h : after? p n s = some rest) : rest = s.drop n := by
  induction n generalizing s with
  | zero => exact (Option.some.inj h).symm
  | succ n ih =>
    cases s with
    | nil => cases h
    | cons c s =>
      rw [after?] at h
      split_ifs at h
      exact ih h

/-- A separator that is read comes next. -/
lemma eq_cons_of_afterChar? {m : Char} {s rest : List Char} (h : afterChar? m s = some rest) :
    s = m :: rest := by
  obtain ⟨us, rfl, hs⟩ := eats_afterChar? (Q := fun us => us = [m]) rfl s rest h
  exact hs

/-- The dashes of a date stand three characters apart. -/
lemma dashes_of_afterDate? {s rest : List Char} (h : afterDate? s = some rest) :
    s[4]? = some '-' ∧ s[7]? = some '-' := by
  unfold afterDate? afterMarkTwo? at h
  obtain ⟨behindDay, hday, -⟩ := Option.map_eq_some_iff.mp h
  obtain ⟨behindMonth, hmonth, hday⟩ := Option.bind_eq_some_iff.mp hday
  obtain ⟨behindYear, hyear, hmonth⟩ := Option.bind_eq_some_iff.mp hmonth
  obtain ⟨month, hdash, hmonth⟩ := Option.bind_eq_some_iff.mp hmonth
  obtain ⟨day, hdash', -⟩ := Option.bind_eq_some_iff.mp hday
  have hfour : s.drop 4 = '-' :: month :=
    (eq_drop_of_after? hyear).symm.trans (eq_cons_of_afterChar? hdash)
  have htwo : month.drop 2 = '-' :: day :=
    (eq_drop_of_after? hmonth).symm.trans (eq_cons_of_afterChar? hdash')
  constructor
  · have hat : (s.drop 4)[0]? = s[4]? := List.getElem?_drop
    rw [← hat, hfour, List.getElem?_cons_zero]
  · have hat : (s.drop 4)[3]? = s[7]? := List.getElem?_drop
    have hat' : (month.drop 2)[0]? = month[2]? := List.getElem?_drop
    rw [← hat, hfour, List.getElem?_cons_succ, ← hat', htwo, List.getElem?_cons_zero]

/-- No date lies in an identifier, since its dashes stand too far apart. -/
lemma IsLowerIdentifier.dateShape {u : List Char} (h : IsLowerIdentifier u)
    {us vs : List Char} (hu : us ++ vs = u) (before : Option Char) : dateShape before vs = 0 := by
  unfold Signature.dateShape
  cases hread : Signature.afterDate? vs with
  | none => rfl
  | some rest =>
    obtain ⟨hfirst, hsecond⟩ := dashes_of_afterDate? hread
    have hat : ∀ i, vs[i]? = u[us.length + i]? := by
      intro i
      rw [← hu, List.getElem?_append_right (Nat.le_add_right _ _), Nat.add_sub_cancel_left]
    have hfour := h.dash_mem ((hat 4).symm.trans hfirst)
    have hseven := h.dash_mem ((hat 7).symm.trans hsecond)
    simp only [List.mem_cons, List.not_mem_nil, or_false] at hfour hseven
    omega

/-! ### Tokens -/

/-- A shape that covers all of a text leaves its mark. -/
lemma replaceAll_of_covers {shape : Shape} {mark cs : List Char} (hne : cs ≠ [])
    (h : shape none cs = cs.length) : replaceAll shape mark cs = mark := by
  obtain ⟨c, cs, rfl⟩ := List.exists_cons_of_ne_nil hne
  have hcovered : replaceFrom shape mark cs.length (some c) cs = [] := by
    simpa using replaceFrom_covered cs [] (some c)
  unfold replaceAll
  rw [replaceFrom_of_eq_succ h, hcovered, List.append_nil]

/-- A timestamp becomes its mark. -/
lemma IsTimestamp.reduce {d : List Char} (h : IsTimestamp d) :
    reduce (d.map Char.toLower) = "[DATE]".toList := by
  have hread := h.afterDate?
  have hne : d.map Char.toLower ≠ [] := by
    intro hnil
    rw [hnil] at hread
    cases hread
  have hcovers : Signature.dateShape none (d.map Char.toLower) = (d.map Char.toLower).length := by
    unfold Signature.dateShape
    rw [hread]
    rfl
  unfold Signature.reduce
  rw [replaceAll_of_covers hne hcovers]
  decide

/-- An identifier becomes its mark. -/
lemma IsIdentifier.reduce {d : List Char} (h : IsIdentifier d) :
    reduce (d.map Char.toLower) = "[UUID]".toList := by
  have hlower := h.map_toLower
  have hread := hlower.afterUuid?
  have hne : d.map Char.toLower ≠ [] := by
    intro hnil
    rw [hnil] at hread
    cases hread
  have hundated : replaceAll Signature.dateShape "[DATE]".toList (d.map Char.toLower) =
      d.map Char.toLower :=
    replaceFrom_eq_self fun us vs hu _ => hlower.dateShape hu _
  have hcovers : uuidShape none (d.map Char.toLower) = (d.map Char.toLower).length := by
    unfold uuidShape
    rw [hread]
    rfl
  unfold Signature.reduce
  rw [hundated, replaceAll_of_covers hne hcovers]
  decide

/-- No identifier starts in a text without dashes. -/
lemma uuidShape_eq_zero {u : List Char} (h : '-' ∉ u) (before : Option Char) :
    uuidShape before u = 0 := by
  have hnone : afterUuid? u = none := by
    unfold afterUuid?
    cases hread : after? isLowerHex 8 u with
    | none => rfl
    | some rest =>
      have hgroup : afterGroup? 4 rest = none := by
        unfold afterGroup?
        rw [afterChar?_eq_none fun c hc => ?_]
        · rfl
        · rintro rfl
          rw [eq_drop_of_after? hread] at hc
          exact h (List.mem_of_mem_drop (List.mem_of_mem_head? hc))
      rw [Option.bind_some, hgroup]
      rfl
  unfold uuidShape
  rw [hnone]
  split_ifs <;> rfl

/-- A number becomes its mark. -/
lemma Digits.reduce {n : Nat} {ds : List Char} (h : Digits (n + 1) ds) :
    reduce (ds.map Char.toLower) = "[NUM]".toList := by
  have hne : ds ≠ [] := by
    rintro rfl
    cases h.length
  have hdash : '-' ∉ ds := fun hmem => absurd (h.decimal '-' hmem) (by decide)
  have hundated : replaceAll Signature.dateShape "[DATE]".toList ds = ds := by
    refine replaceFrom_eq_self fun us vs hds _ => dateShape_eq_zero fun c hc => ?_
    have hmem : '-' ∈ vs := hc.subset (by simp)
    exact absurd (hds ▸ List.mem_append_right us hmem) hdash
  have hunnamed : replaceAll uuidShape "[UUID]".toList ds = ds :=
    replaceFrom_eq_self fun us vs hds _ =>
      uuidShape_eq_zero (fun hmem => hdash (hds ▸ List.mem_append_right us hmem)) _
  have hcovers : numberShape none ds = ds.length := by
    unfold numberShape
    rw [List.takeWhile_eq_self_iff.mpr h.decimal]
  unfold Signature.reduce
  rw [h.map_toLower, hundated, hunnamed, replaceAll_of_covers hne hcovers]

/-- A token becomes the mark of its kind. -/
lemma Token.Spells.reduce {kind : Token} {d : List Char} (h : kind.Spells d) :
    reduce (lowercase d) = kind.mark.toList := by
  unfold lowercase
  rw [lowercaseAfter_eq_map h.plain]
  cases kind with
  | timestamp => exact IsTimestamp.reduce h
  | identifier => exact IsIdentifier.reduce h
  | number =>
    obtain ⟨n, hdigits⟩ := h
    exact hdigits.reduce

/-! ### Spaces -/

/-- A space stands in none of the shapes. -/
lemma separates_space : Separates ' ' :=
  ⟨by decide, by decide, by decide, by simp⟩

/-- A space parts what is lower-cased and reduced. -/
lemma reduce_lowercase_space (us vs : List Char) :
    reduce (lowercase (us ++ ' ' :: vs)) =
      reduce (lowercase us) ++ ' ' :: reduce (lowercase vs) := by
  rw [lowercase_append_cons (by decide) (by decide) (by decide), separates_space.reduce_append]

/-- Nothing becomes of nothing. -/
@[simp] lemma reduce_lowercase_nil : reduce (lowercase []) = [] := rfl

/-- A message's token becomes the mark of its kind, and what stands before it and behind it is
reduced on its own. -/
lemma Token.Spells.normalizeChars {kind : Token} {d : List Char} (h : kind.Spells d)
    {p q : List Char} (hp : p = [] ∨ p.getLast? = some ' ') (hq : q.head? = some ' ')
    (s : List Char) :
    normalizeChars (p ++ d ++ q) s =
      Signature.reduce (lowercase p) ++ kind.mark.toList ++ Signature.normalizeChars q s := by
  obtain ⟨q, rfl⟩ := List.head?_eq_some_iff.mp hq
  have hbehind : ∀ tail, Signature.reduce (lowercase (d ++ ' ' :: tail)) =
      kind.mark.toList ++ Signature.reduce (lowercase (' ' :: tail)) := by
    intro tail
    have hspace := reduce_lowercase_space [] tail
    rw [List.nil_append, reduce_lowercase_nil, List.nil_append] at hspace
    rw [reduce_lowercase_space, h.reduce, hspace]
  have hbefore : ∀ tail, Signature.reduce (lowercase (p ++ tail)) =
      Signature.reduce (lowercase p) ++ Signature.reduce (lowercase tail) := by
    intro tail
    obtain rfl | hlast := hp
    · rfl
    · obtain ⟨p, rfl⟩ := List.getLast?_eq_some_iff.mp hlast
      rw [List.append_assoc, List.singleton_append, reduce_lowercase_space, reduce_lowercase_space,
        reduce_lowercase_nil]
      simp only [List.append_assoc, List.singleton_append]
  rw [normalizeChars_eq, normalizeChars_eq]
  simp only [List.append_assoc, List.cons_append]
  rw [hbefore, hbehind]

/-- Between a space or the start and a space, tokens of one kind are all the same to the normal form
of a failure.  It has the mark of the kind in their place, behind the normal form of what stands
before them and before that of what stands behind them. -/
theorem normalize_token {kind : Token} {d d' p q : String} (hd : kind.Spells d.toList)
    (hd' : kind.Spells d'.toList) (hp : p = "" ∨ p.toList.getLast? = some ' ')
    (hq : q.toList.head? = some ' ') (s : String) :
    normalize (p ++ d ++ q) s = normalize (p ++ d' ++ q) s ∧
      normalize (p ++ d ++ q) s =
        String.ofList (reduce (lowercase p.toList)) ++ kind.mark ++ normalize q s := by
  have hstart : p.toList = [] ∨ p.toList.getLast? = some ' ' := by
    obtain rfl | hlast := hp
    · exact Or.inl rfl
    · exact Or.inr hlast
  have hmarked : ∀ {d : String}, kind.Spells d.toList → normalize (p ++ d ++ q) s =
      String.ofList (reduce (lowercase p.toList)) ++ kind.mark ++ normalize q s := by
    intro d hd
    unfold normalize
    rw [String.toList_append, String.toList_append, hd.normalizeChars hstart hq,
      String.ofList_append, String.ofList_append, String.ofList_toList]
  exact ⟨(hmarked hd).trans (hmarked hd').symm, hmarked hd⟩

/-- An instant with a fraction and an offset, and a date alone, before a number. -/
theorem normalize_token_instant :
    normalize ("ΟΔΟΣ at " ++ "2024-01-01T10:00:00.25+0100" ++ " for 42") "at a.rs:88" =
        normalize ("ΟΔΟΣ at " ++ "1999-12-31" ++ " for 42") "at a.rs:88" ∧
      normalize ("ΟΔΟΣ at " ++ "2024-01-01T10:00:00.25+0100" ++ " for 42") "at a.rs:88" =
        String.ofList (reduce (lowercase "ΟΔΟΣ at ".toList)) ++ "[DATE]" ++
          normalize " for 42" "at a.rs:88" := by
  have hhour : Digits 2 ['1', '0'] := by decide
  have hone : Digits 2 ['0', '1'] := by decide
  have hzero : Digits 2 ['0', '0'] := by decide
  have hyear : Digits 4 ['2', '0', '2', '4'] := by decide
  have hinstant : Token.timestamp.Spells "2024-01-01T10:00:00.25+0100".toList :=
    .instant (.intro hyear hone hone) (by decide) hhour hzero
      (.fraction hzero (by decide : Digits 2 ['2', '5'])) (.offset (by decide) hone hzero)
  have hdate : Token.timestamp.Spells "1999-12-31".toList :=
    .date (.intro (by decide : Digits 4 ['1', '9', '9', '9']) (by decide : Digits 2 ['1', '2'])
      (by decide : Digits 2 ['3', '1']))
  exact normalize_token hinstant hdate (by decide) (by decide) "at a.rs:88"

end Retrial.Signature

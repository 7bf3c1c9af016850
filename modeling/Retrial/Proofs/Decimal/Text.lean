import Retrial.Decimal.Shortest
import Retrial.Proofs.Json.Digits

/-!
# The text of a decimal

The text of a decimal starts with a digit in each of its layouts.
-/

namespace Retrial.Decimal

/-- The characters of a decimal's text, from its digits and the place of its point. -/
lemma Scientific.toList_text (s : Scientific) :
    s.text.toList =
      let digits := Nat.toDigits 10 s.digits
      let point : Int := digits.length + s.exponent
      if 0 ≤ s.exponent ∧ point ≤ 16 then
        digits ++ List.replicate s.exponent.toNat '0' ++ ['.', '0']
      else if 0 < point ∧ point ≤ 16 then
        digits.take point.toNat ++ '.' :: digits.drop point.toNat
      else if -5 < point ∧ point ≤ 0 then
        '0' :: '.' :: (List.replicate (-point).toNat '0' ++ digits)
      else
        digits.take 1 ++ (if digits.length ≤ 1 then [] else '.' :: digits.drop 1) ++
          'e' :: (if 0 ≤ point - 1 then '+' else '-') :: Nat.toDigits 10 (point - 1).natAbs := by
  have hdigits : (toString s.digits).toList = Nat.toDigits 10 s.digits := Nat.toList_repr
  unfold text
  simp only [hdigits, Bool.and_eq_true, decide_eq_true_eq]
  split_ifs
  all_goals simp

/-- The text of a decimal starts with a digit. -/
lemma Scientific.exists_text_eq (s : Scientific) :
    ∃ c more, s.text.toList = c :: more ∧ c.isDigit = true := by
  cases hdigits : Nat.toDigits 10 s.digits with
  | nil => exact absurd hdigits Nat.toDigits_ne_nil
  | cons c ds =>
    have hc : c.isDigit = true := Json.digits_toDigits s.digits c (hdigits ▸ List.mem_cons_self)
    rw [toList_text, hdigits]
    simp only
    split_ifs with hwhole hpoint hsmall
    · exact ⟨c, _, rfl, hc⟩
    · obtain ⟨k, hk⟩ : ∃ k, ((c :: ds).length + s.exponent : Int).toNat = k + 1 :=
        Nat.exists_eq_succ_of_ne_zero (by omega)
      rw [hk]
      exact ⟨c, _, rfl, hc⟩
    · exact ⟨'0', _, rfl, by decide⟩
    · exact ⟨c, _, rfl, hc⟩
    · exact ⟨c, _, rfl, hc⟩
    · exact ⟨c, _, rfl, hc⟩
    · exact ⟨c, _, rfl, hc⟩

end Retrial.Decimal

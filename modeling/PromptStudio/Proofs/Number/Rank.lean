import PromptStudio.Number.Shortest

/-!
# The rank of a quotient

A quotient has the same rank however it is written, a magnitude has its own rank, and quotients far outside the finite
magnitudes have the rank of zero or lie past the last rank. So the rank of a decimal numeral does not depend on how its
digits are split from its power of ten; the numeral that `shortest` finds has the rank it was made from; and reading a
numeral gives the number of its rank, also where its size alone decides.
-/

namespace PromptStudio

theorem roundDiv_mul {k : Nat} (hk : 0 < k) (num den : Nat) : roundDiv (k * num) (k * den) = roundDiv num den := by
  have hquotient : k * num / (k * den) = num / den := Nat.mul_div_mul_left num den hk
  have hremainder : k * num % (k * den) = k * (num % den) := Nat.mul_mod_mul_left k num den
  have hbelow : 2 * (k * (num % den)) < k * den ↔ 2 * (num % den) < den := by
    rw [Nat.mul_left_comm, Nat.mul_lt_mul_left hk]
  have habove : k * den < 2 * (k * (num % den)) ↔ den < 2 * (num % den) := by
    rw [Nat.mul_left_comm, Nat.mul_lt_mul_left hk]
  simp only [roundDiv, hquotient, hremainder, hbelow, habove]

theorem roundDiv_mul_self {den : Nat} (hden : 0 < den) (quotient : Nat) : roundDiv (quotient * den) den = quotient := by
  simp only [roundDiv, Nat.mul_div_cancel _ hden, Nat.mul_mod_left, Nat.mul_zero, if_pos hden]

namespace Binary64

theorem natPow_pos (base exponent : Nat) (h : 0 < base) : 0 < Nat.pow base exponent :=
  Nat.pow_pos h

theorem natPow_add (base m n : Nat) : Nat.pow base (m + n) = Nat.pow base m * Nat.pow base n :=
  Nat.pow_add base m n

theorem le_log2 {n k : Nat} (h : Nat.pow 2 k ≤ n) : k ≤ n.log2 :=
  (Nat.le_log2 (Nat.ne_of_gt (Nat.lt_of_lt_of_le (natPow_pos 2 k Nat.zero_lt_two) h))).mpr h

theorem unitsPerOne_pos : 0 < unitsPerOne := by
  decide +kernel

/-! ### Quotients -/

theorem rankOfRatio_mul {k : Nat} (hk : 0 < k) (num den : Nat) :
    rankOfRatio (k * num) (k * den) = rankOfRatio num den := by
  have hscaled : k * num * unitsPerOne = k * (num * unitsPerOne) := Nat.mul_assoc ..
  have hquotient : k * (num * unitsPerOne) / (k * den) = num * unitsPerOne / den := Nat.mul_div_mul_left _ _ hk
  simp only [rankOfRatio, hscaled, hquotient, Nat.mul_assoc k den, roundDiv_mul hk]

theorem rankOfRatio_congr {num den num' den' : Nat} (hden : 0 < den) (hden' : 0 < den')
    (h : num * den' = num' * den) : rankOfRatio num den = rankOfRatio num' den' := by
  rw [← rankOfRatio_mul hden', ← rankOfRatio_mul hden num' den', Nat.mul_comm den' num, h, Nat.mul_comm num' den,
    Nat.mul_comm den' den]

/-- The rank of a number of units: the shift counts whole binades, and the rest is rounded. -/
theorem rankOfRatio_unitsPerOne (n : Nat) :
    rankOfRatio n unitsPerOne = (n.log2 - 52) * binade + roundDiv n (Nat.pow 2 (n.log2 - 52)) := by
  have hquotient : n * unitsPerOne / unitsPerOne = n := Nat.mul_div_cancel n unitsPerOne_pos
  simp only [rankOfRatio, hquotient]
  rw [Nat.mul_comm n, roundDiv_mul unitsPerOne_pos]

theorem rankOfRatio_units (rank : Nat) : rankOfRatio (units rank) unitsPerOne = rank := by
  rw [rankOfRatio_unitsPerOne, units]
  split
  · rename_i hsmall
    have hshift : rank.log2 - 52 = 0 := by
      rcases Nat.eq_zero_or_pos rank with rfl | hpos
      · rfl
      · have hlog : rank.log2 < 52 := (Nat.log2_lt (Nat.ne_of_gt hpos)).mpr hsmall
        omega
    rw [hshift, Nat.zero_mul, Nat.zero_add]
    exact (congrArg (roundDiv · 1) (Nat.mul_one rank).symm).trans (roundDiv_mul_self Nat.one_pos rank)
  · rename_i hlarge
    have hexponent : 1 ≤ rank / binade := (Nat.one_le_div_iff (by decide)).mpr (Nat.not_lt.mp hlarge)
    have hsplit : rank / binade * binade + rank % binade = rank := Nat.div_add_mod' rank binade
    have hmod : rank % binade < binade := Nat.mod_lt rank (by decide)
    generalize rank / binade = exponent at hexponent hsplit ⊢
    generalize rank % binade = offset at hsplit hmod ⊢
    obtain ⟨e, rfl⟩ := Nat.exists_eq_add_of_le' hexponent
    have hpow : 0 < Nat.pow 2 e := natPow_pos 2 e Nat.zero_lt_two
    have hlog : ((binade + offset) * Nat.pow 2 e).log2 = 52 + e := by
      rw [Nat.log2_eq_iff (Nat.mul_ne_zero (by omega) (Nat.ne_of_gt hpow))]
      constructor
      · rw [Nat.pow_add]
        exact Nat.mul_le_mul_right _ (Nat.le_add_right binade offset)
      · rw [Nat.add_right_comm, Nat.pow_add]
        refine Nat.mul_lt_mul_of_pos_right ?_ hpow
        exact Nat.lt_of_lt_of_eq (Nat.add_lt_add_left hmod binade) (by decide)
    rw [Nat.add_sub_cancel, hlog, Nat.add_sub_cancel_left, roundDiv_mul_self hpow, ← hsplit, Nat.add_mul, Nat.one_mul,
      Nat.add_assoc]

theorem rankOfRatio_eq_zero {num den : Nat} (h : 2 * (num * unitsPerOne) < den) : rankOfRatio num den = 0 := by
  have hquotient : num * unitsPerOne / den = 0 := Nat.div_eq_of_lt (by omega)
  have hremainder : num * unitsPerOne % den = num * unitsPerOne := Nat.mod_eq_of_lt (by omega)
  have hshift : Nat.log2 0 - 52 = 0 := rfl
  have hpow : den * Nat.pow 2 0 = den := Nat.mul_one den
  simp only [rankOfRatio, hquotient, hshift, hpow, roundDiv, hremainder, if_pos h, Nat.zero_mul, Nat.zero_add]

theorem le_log2_of_le_ratio {num den k : Nat} (hden : 0 < den) (h : Nat.pow 2 k * den ≤ num * unitsPerOne) :
    k ≤ (num * unitsPerOne / den).log2 := by
  apply le_log2
  rw [Nat.le_div_iff_mul_le hden]
  exact h

theorem rankCount_le_rankOfRatio {num den k : Nat} (hden : 0 < den) (hk : 2099 ≤ k)
    (h : Nat.pow 2 k * den ≤ num * unitsPerOne) : rankCount ≤ rankOfRatio num den := by
  have hlog := le_log2_of_le_ratio hden h
  have hshift : rankCount ≤ ((num * unitsPerOne / den).log2 - 52) * binade :=
    Nat.mul_le_mul_right binade (by omega)
  exact Nat.le_trans hshift (Nat.le_add_right _ _)

/-! ### Numerals -/

namespace Numeral

theorem rank_eq (d : Numeral) :
    d.rank = rankOfRatio (d.digits * Nat.pow 10 d.exponent.toNat) (Nat.pow 10 (-d.exponent).toNat) := by
  rw [rank]
  split
  · rename_i h
    have hneg : (-d.exponent).toNat = 0 := by omega
    rw [hneg]
  · rename_i h
    have hpos : d.exponent.toNat = 0 := by omega
    rw [hpos]
    exact congrArg (rankOfRatio · _) (Nat.mul_one d.digits).symm

theorem rank_mul_pow (digits k : Nat) (exponent : Int) :
    rank ⟨digits * Nat.pow 10 k, exponent⟩ = rank ⟨digits, exponent + k⟩ := by
  have hten : 0 < 10 := by decide
  rw [rank_eq, rank_eq]
  refine rankOfRatio_congr (natPow_pos 10 _ hten) (natPow_pos 10 _ hten) ?_
  have hsum : k + exponent.toNat + (-(exponent + k)).toNat = (exponent + k).toNat + (-exponent).toNat := by omega
  have hpows := congrArg (Nat.pow 10) hsum
  rw [natPow_add, natPow_add, natPow_add] at hpows
  simp only [Nat.mul_assoc] at hpows ⊢
  rw [hpows]

theorem rank_trim (fuel : Nat) (d : Numeral) : (trim fuel d).rank = d.rank := by
  induction fuel generalizing d with
  | zero => rfl
  | succ fuel ih =>
      rw [trim]
      split
      · rename_i h
        have hten : d.digits / 10 * Nat.pow 10 1 = d.digits := Nat.div_mul_cancel (Nat.dvd_of_mod_eq_zero h.2)
        have hsplit := rank_mul_pow (d.digits / 10) 1 d.exponent
        rw [hten] at hsplit
        exact (ih _).trans hsplit.symm
      · rfl

theorem rank_zero (exponent : Int) : rank ⟨0, exponent⟩ = 0 := by
  rw [rank_eq, Nat.zero_mul]
  exact rankOfRatio_eq_zero (by rw [Nat.zero_mul]; exact natPow_pos 10 _ (by decide))

end Numeral

/-- Halving and doubling: a count of `2 ^ -n` is a count of `10 ^ -n`, and the digits of a magnitude all end. -/
theorem rank_mul_pow_five (units n : Nat) :
    Numeral.rank ⟨units * Nat.pow 5 n, -n⟩ = rankOfRatio units (Nat.pow 2 n) := by
  have hexponent : (-(n : Int)).toNat = 0 ∧ (- -(n : Int)).toNat = n := by omega
  have hone : Nat.pow 10 0 = 1 := rfl
  have htwo : 0 < 2 := by decide
  have hten : 0 < 10 := by decide
  have hpow : Nat.pow 5 n * Nat.pow 2 n = Nat.pow 10 n := (Nat.mul_pow 5 2 n).symm
  rw [Numeral.rank_eq, hexponent.1, hexponent.2]
  refine rankOfRatio_congr (natPow_pos 10 n hten) (natPow_pos 2 n htwo) ?_
  rw [hone, Nat.mul_one, Nat.mul_assoc, hpow]

theorem rank_exactNumeral (rank : Nat) : (exactNumeral rank).rank = rank :=
  (rank_mul_pow_five (units rank) 1074).trans (rankOfRatio_units rank)

theorem rank_of_nearestOnGrid? {rank : Nat} {exponent : Int} {d : Numeral}
    (h : nearestOnGrid? rank exponent = some d) : d.rank = rank := by
  unfold nearestOnGrid? at h
  extract_lets magnitude num den near low far at h
  split at h
  · rename_i hnear
    rw [← Option.some.inj h]
    exact hnear
  · split at h
    · rename_i hfar
      rw [← Option.some.inj h]
      exact hfar
    · cases h

theorem rank_getD_exactNumeral {found : Option Numeral} {rank : Nat} (h : ∀ d, found = some d → d.rank = rank) :
    (found.getD (exactNumeral rank)).rank = rank := by
  cases found with
  | none => exact rank_exactNumeral rank
  | some d => exact h d rfl

theorem rank_shortest (rank : Nat) : (shortest rank).rank = rank := by
  rw [shortest, Numeral.rank_trim]
  apply rank_getD_exactNumeral
  intro d hfound
  obtain ⟨n, _, hgrid⟩ := List.exists_of_findSome?_eq_some hfound
  exact rank_of_nearestOnGrid? hgrid

theorem digits_shortest_ne_zero {rank : Nat} (h : rank ≠ 0) : (shortest rank).digits ≠ 0 := by
  have hrank := rank_shortest rank
  intro hzero
  generalize shortest rank = d at hrank hzero
  obtain ⟨digits, exponent⟩ := d
  obtain rfl : digits = 0 := hzero
  exact h (hrank.symm.trans (Numeral.rank_zero exponent))

/-! ### Reading a numeral -/

theorem ofRank_eq_zero (negative : Bool) : ofRank negative 0 = zero negative := by
  rw [ofRank, dif_pos]
  rfl

theorem ofRank_eq_infinite {rank : Nat} (h : rankCount ≤ rank) (negative : Bool) :
    ofRank negative rank = .infinite negative := by
  rw [ofRank, dif_neg (Nat.not_lt.mpr h)]

theorem ofRank_val (negative : Bool) (rank : Fin rankCount) : ofRank negative rank.val = .finite negative rank := by
  rw [ofRank, dif_pos rank.isLt]

theorem lt_pow_digitCount {n : Nat} (hn : n ≠ 0) : n < Nat.pow 10 (digitCount n) := by
  rw [digitCount, if_neg hn]
  exact (Nat.length_toDigits_le_iff (by decide) Nat.length_toDigits_pos).mp (Nat.le_refl _)

theorem pow_digitCount_le {n : Nat} (hn : n ≠ 0) : Nat.pow 10 (digitCount n - 1) ≤ n := by
  rw [digitCount, if_neg hn]
  apply Nat.not_lt.mp
  intro hlt
  rcases Nat.eq_zero_or_pos ((Nat.toDigits 10 n).length - 1) with hone | hmore
  · rw [hone] at hlt
    exact hn (Nat.lt_one_iff.mp hlt)
  · have hlength := (Nat.length_toDigits_le_iff (by decide) hmore).mpr hlt
    omega

/-- A numeral from `10 ^ lead` on, with `lead` large enough, lies past the last finite rank. -/
theorem Numeral.rankCount_le_rank {digits k : Nat} {exponent : Int} (lead : Nat) (hk : 2099 ≤ k)
    (hlead : Nat.pow 2 k ≤ Nat.pow 10 lead * unitsPerOne)
    (hdigits : Nat.pow 10 (lead + (-exponent).toNat) ≤ digits * Nat.pow 10 exponent.toNat) :
    rankCount ≤ rank ⟨digits, exponent⟩ := by
  rw [rank_eq]
  refine rankCount_le_rankOfRatio (natPow_pos 10 _ (by decide)) hk ?_
  calc Nat.pow 2 k * Nat.pow 10 (-exponent).toNat
      ≤ Nat.pow 10 lead * unitsPerOne * Nat.pow 10 (-exponent).toNat := Nat.mul_le_mul_right _ hlead
    _ = Nat.pow 10 (lead + (-exponent).toNat) * unitsPerOne := by rw [natPow_add, Nat.mul_right_comm]
    _ ≤ digits * Nat.pow 10 exponent.toNat * unitsPerOne := Nat.mul_le_mul_right _ hdigits

theorem Numeral.rank_eq_zero {digits : Nat} {exponent : Int} (depth : Nat) (hdepth : 2 * unitsPerOne ≤ Nat.pow 10 depth)
    (hdigits : digits * Nat.pow 10 (exponent.toNat + depth) < Nat.pow 10 (-exponent).toNat) :
    rank ⟨digits, exponent⟩ = 0 := by
  rw [rank_eq]
  refine rankOfRatio_eq_zero (Nat.lt_of_le_of_lt ?_ hdigits)
  calc 2 * (digits * Nat.pow 10 exponent.toNat * unitsPerOne)
      = digits * Nat.pow 10 exponent.toNat * (2 * unitsPerOne) := Nat.mul_left_comm ..
    _ ≤ digits * Nat.pow 10 exponent.toNat * Nat.pow 10 depth := Nat.mul_le_mul_left _ hdepth
    _ = digits * Nat.pow 10 (exponent.toNat + depth) := by rw [natPow_add, Nat.mul_assoc]

theorem natPow_le_natPow {m n : Nat} (h : m ≤ n) : Nat.pow 10 m ≤ Nat.pow 10 n :=
  Nat.pow_le_pow_right (by decide) h

/-- Reading a numeral gives the number of its rank, also where its size alone decides. -/
theorem ofDecimal_eq (negative : Bool) (digits : Nat) (exponent : Int) :
    ofDecimal negative digits exponent = ofRank negative (Numeral.rank ⟨digits, exponent⟩) := by
  rw [ofDecimal]
  split
  · rename_i hzero
    rw [hzero, Numeral.rank_zero, ofRank_eq_zero]
  · rename_i hpositive
    split
    · rename_i hhuge
      have hlead := pow_digitCount_le hpositive
      refine (ofRank_eq_infinite (Numeral.rankCount_le_rank 310 (Nat.le_refl 2099) ?_ ?_) negative).symm
      · decide +kernel
      · calc Nat.pow 10 (310 + (-exponent).toNat)
            ≤ Nat.pow 10 (digitCount digits - 1 + exponent.toNat) := natPow_le_natPow (by omega)
          _ = Nat.pow 10 (digitCount digits - 1) * Nat.pow 10 exponent.toNat := natPow_add ..
          _ ≤ digits * Nat.pow 10 exponent.toNat := Nat.mul_le_mul_right _ hlead
    · split
      · rename_i htiny
        have hbound := lt_pow_digitCount hpositive
        rw [Numeral.rank_eq_zero 325 ?_ ?_, ofRank_eq_zero]
        · decide +kernel
        · calc digits * Nat.pow 10 (exponent.toNat + 325)
              < Nat.pow 10 (digitCount digits) * Nat.pow 10 (exponent.toNat + 325) :=
                Nat.mul_lt_mul_of_pos_right hbound (natPow_pos 10 _ (by decide))
            _ = Nat.pow 10 (digitCount digits + (exponent.toNat + 325)) := (natPow_add ..).symm
            _ ≤ Nat.pow 10 (-exponent).toNat := natPow_le_natPow (by omega)
      · rw [Numeral.rank]
        split <;> rfl

end Binary64

end PromptStudio

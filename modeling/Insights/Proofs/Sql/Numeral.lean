import Insights.Number.Decimal
import Insights.Proofs.Sql.Lexing

/-!
The texts that are one number each: a sign, digits, a fraction and an exponent, of which only the digits
must be there. These are the texts that are read as numbers, and every integer and every finite number is
written as one of them.
-/

namespace Insights.Sql

/-- A run of digits that is not empty. -/
def IsDigits (text : List Char) : Prop :=
  text ≠ [] ∧ ∀ c ∈ text, c.isDigit = true

inductive IsSign : List Char → Prop where
  | none : IsSign []
  | minus : IsSign ['-']
  | plus : IsSign ['+']

inductive IsFraction : List Char → Prop where
  | none : IsFraction []
  | point {digits : List Char} (h : IsDigits digits) : IsFraction ('.' :: digits)

inductive IsPower : List Char → Prop where
  | none : IsPower []
  | mark {c : Char} {sign digits : List Char} (hc : isPowerMark c = true) (hsign : IsSign sign)
      (h : IsDigits digits) : IsPower (c :: (sign ++ digits))

/-- A number without a sign. -/
inductive IsUnsigned : List Char → Prop where
  | parts {whole fraction power : List Char} (hwhole : IsDigits whole) (hfraction : IsFraction fraction)
      (hpower : IsPower power) : IsUnsigned (whole ++ fraction ++ power)

inductive IsNumeral : List Char → Prop where
  | signed {sign number : List Char} (hsign : IsSign sign) (h : IsUnsigned number) :
      IsNumeral (sign ++ number)

variable {text rest digits sign fraction power places : List Char}

/-! ### Reading -/

theorem cutDigits?_append (h : IsDigits digits) (hrest : Meets (!Char.isDigit ·) rest) :
    cutDigits? (digits ++ rest) = some (digits, rest) := by
  cases hdigits : digits with
  | nil => exact absurd hdigits h.1
  | cons c tail =>
    have hall : ∀ d ∈ c :: tail, d.isDigit = true := hdigits ▸ h.2
    simp only [cutDigits?, List.takeWhile_append_of_pos hall, List.dropWhile_append_of_pos hall,
      takeWhile_of_meets hrest, dropWhile_of_meets hrest, List.append_nil]

theorem cutSign_append (h : IsSign sign) (hdigits : IsDigits digits) (rest : List Char) :
    cutSign (sign ++ (digits ++ rest)) = (sign, digits ++ rest) := by
  cases h with
  | minus => rfl
  | plus => rfl
  | none =>
    cases hlist : digits with
    | nil => exact absurd hlist hdigits.1
    | cons c tail =>
      have hc : c.isDigit = true := hdigits.2 c (by simp [hlist])
      have hminus : c ≠ '-' := by
        rintro rfl
        exact absurd hc (by decide)
      have hplus : c ≠ '+' := by
        rintro rfl
        exact absurd hc (by decide)
      simp [cutSign, hminus, hplus]

/-- What may follow the fraction of a number. -/
def endsFraction (c : Char) : Bool :=
  isPowerMark c || isBreak c

/-- What may follow the digits of a number. -/
def endsWhole (c : Char) : Bool :=
  c = '.' || endsFraction c

theorem not_isPowerMark_of_isBreak {c : Char} (h : isBreak c = true) : isPowerMark c = false := by
  simp only [isBreak, Bool.or_eq_true, decide_eq_true_eq] at h
  obtain (rfl | rfl) | rfl := h
  all_goals decide

theorem ne_point_of_endsFraction {c : Char} (h : endsFraction c = true) : c ≠ '.' := by
  rintro rfl
  exact absurd h (by decide)

theorem not_isDigit_of_endsWhole {c : Char} (h : endsWhole c = true) : (!c.isDigit) = true := by
  simp only [endsWhole, endsFraction, isPowerMark, isBreak, Bool.or_eq_true, decide_eq_true_eq] at h
  obtain rfl | (rfl | rfl) | (rfl | rfl) | rfl := h
  all_goals decide

theorem meets_power (h : IsPower power) (hrest : Meets isBreak rest) :
    Meets endsFraction (power ++ rest) := by
  cases h with
  | none => exact hrest.mono fun c hc => by simp [endsFraction, hc]
  | mark hc => exact meets_cons.mpr (by simp [endsFraction, hc])

theorem meets_fraction (h : IsFraction fraction) (hrest : Meets endsFraction rest) :
    Meets endsWhole (fraction ++ rest) := by
  cases h with
  | none => exact hrest.mono fun c hc => by simp [endsWhole, hc]
  | point => exact meets_cons.mpr (by decide)

theorem cutPower_append (h : IsPower power) (hrest : Meets isBreak rest) :
    cutPower (power ++ rest) = (power, rest) := by
  cases h with
  | none =>
    cases rest with
    | nil => rfl
    | cons c tail =>
      have hc := not_isPowerMark_of_isBreak (meets_cons.mp hrest)
      simp [cutPower, hc]
  | @mark c sign digits hc hsign hdigits =>
    have hbreak : Meets (!Char.isDigit ·) rest :=
      hrest.mono fun d hd => not_isDigit_of_endsWhole (by simp [endsWhole, endsFraction, hd])
    have hcut := cutDigits?_append hdigits hbreak
    have hcutSign := cutSign_append hsign hdigits rest
    simp [cutPower, hc, hcutSign, hcut]

theorem cutFraction_append (h : IsFraction fraction) (hrest : Meets endsFraction rest) :
    cutFraction (fraction ++ rest) = (fraction, rest) := by
  cases h with
  | none =>
    cases rest with
    | nil => rfl
    | cons c tail =>
      have hc := ne_point_of_endsFraction (meets_cons.mp hrest)
      simp [cutFraction, hc]
  | point hdigits =>
    have hend : Meets (!Char.isDigit ·) rest :=
      hrest.mono fun c hc => not_isDigit_of_endsWhole (by simp [endsWhole, hc])
    simp [cutFraction, cutDigits?_append hdigits hend]

theorem cutNumber?_append (h : IsNumeral text) (hrest : Meets isBreak rest) :
    cutNumber? (text ++ rest) = some (text, rest) := by
  obtain @⟨sign, number, hsign, @⟨whole, fraction, power, hwhole, hfraction, hpower⟩⟩ := h
  have hpowerEnd := meets_power hpower hrest
  have hfractionEnd := meets_fraction hfraction hpowerEnd
  have hcutSign := cutSign_append hsign hwhole (fraction ++ (power ++ rest))
  have hcutWhole := cutDigits?_append hwhole
    (hfractionEnd.mono fun c hc => not_isDigit_of_endsWhole hc)
  have hcutFraction := cutFraction_append hfraction hpowerEnd
  have hcutPower := cutPower_append hpower hrest
  simp only [cutNumber?, List.append_assoc, hcutSign, hcutWhole, hcutFraction, hcutPower,
    Option.map_some]

/-- The characters with which a number begins. -/
def isNumberStart (c : Char) : Bool :=
  c.isDigit || c = '-' || c = '+'

theorem IsNumeral.exists_cons (h : IsNumeral text) :
    ∃ c tail, text = c :: tail ∧ isNumberStart c = true := by
  obtain @⟨sign, number, hsign, @⟨whole, fraction, power, hwhole, -, -⟩⟩ := h
  cases hsign with
  | minus => exact ⟨'-', whole ++ fraction ++ power, by simp, by decide⟩
  | plus => exact ⟨'+', whole ++ fraction ++ power, by simp, by decide⟩
  | none =>
    cases hlist : whole with
    | nil => exact absurd hlist hwhole.1
    | cons c tail =>
      have hc : c.isDigit = true := hwhole.2 c (by simp [hlist])
      exact ⟨c, tail ++ fraction ++ power, by simp, by simp [isNumberStart, hc]⟩

theorem toNat_of_isNumberStart {c : Char} (h : isNumberStart c = true) :
    42 < c.toNat ∧ c.toNat < 58 := by
  simp only [isNumberStart, Char.isDigit, Bool.or_eq_true, Bool.and_eq_true, decide_eq_true_eq, ge_iff_le,
    UInt32.le_iff_toNat_le] at h
  have hval : c.toNat = c.val.toNat := rfl
  have : '0'.val.toNat = 48 := rfl
  have : '9'.val.toNat = 57 := rfl
  obtain (h | rfl) | rfl := h
  · omega
  · decide
  · decide

theorem lt_toNat_of_isWordStart {c : Char} (h : isWordStart c = true) : 64 < c.toNat := by
  simp only [isWordStart, isAlpha_eq, Bool.or_eq_true, Bool.and_eq_true,
    decide_eq_true_eq, ge_iff_le, UInt32.le_iff_toNat_le] at h
  have hval : c.toNat = c.val.toNat := rfl
  have : 'A'.val.toNat = 65 := rfl
  have : 'a'.val.toNat = 97 := rfl
  obtain (h | h) | rfl := h
  · omega
  · omega
  · decide

/-- A number gives one token, which keeps its spelling. -/
theorem lexes_numeral (h : IsNumeral text) :
    Lexes isBreak (String.ofList text) [.number (String.ofList text)] := by
  intro rest hrest
  obtain ⟨c, tail, rfl, hc⟩ := h.exists_cons
  have hcode := toNat_of_isNumberStart hc
  have hcut : cutNumber? (c :: (tail ++ rest)) = some (c :: tail, rest) := cutNumber?_append h hrest
  have hname : c ≠ '"' := by
    rintro rfl
    exact absurd hc (by decide)
  have htext : c ≠ '\'' := by
    rintro rfl
    exact absurd hc (by decide)
  have hword : ¬ isWordStart c = true := by
    intro hword
    have := lt_toNat_of_isWordStart hword
    omega
  rw [String.toList_ofList]
  apply lex_token (not_isAsciiSpace (by omega))
  simp [token?, hname, htext, hword, hcut]

/-! ### What is read as a number is one -/

theorem isDigits_of_cutDigits? (h : cutDigits? text = some (digits, rest)) : IsDigits digits := by
  unfold cutDigits? at h
  split at h
  · cases h
  · next hne =>
    obtain ⟨rfl, -⟩ : text.takeWhile Char.isDigit = digits ∧ _ := by simpa using h
    exact ⟨hne, fun c hc => List.all_eq_true.mp List.all_takeWhile c hc⟩

theorem isSign_cutSign (text : List Char) : IsSign (cutSign text).1 := by
  unfold cutSign
  split
  · exact .minus
  · exact .plus
  · exact .none

theorem isFraction_cutFraction (text : List Char) : IsFraction (cutFraction text).1 := by
  unfold cutFraction
  split
  · split
    · next hdigits => exact .point (isDigits_of_cutDigits? hdigits)
    · exact .none
  · exact .none

theorem isPower_cutPower (text : List Char) : IsPower (cutPower text).1 := by
  unfold cutPower
  split
  · exact .none
  · split
    · next hmark =>
      split
      · next hdigits => exact .mark hmark (isSign_cutSign _) (isDigits_of_cutDigits? hdigits)
      · exact .none
    · exact .none

theorem isNumeral_of_cutNumber? {spelling : List Char} (h : cutNumber? text = some (spelling, rest)) :
    IsNumeral spelling := by
  simp only [cutNumber?, Option.map_eq_some_iff, Prod.mk.injEq] at h
  obtain ⟨⟨whole, behind⟩, hwhole, rfl, -⟩ := h
  have hparts := IsUnsigned.parts (isDigits_of_cutDigits? hwhole) (isFraction_cutFraction behind)
    (isPower_cutPower (cutFraction behind).2)
  simpa only [List.append_assoc] using IsNumeral.signed (isSign_cutSign text) hparts

theorem isNumeral_of_token? {spelling : String} (h : token? text = some (.number spelling, rest)) :
    IsNumeral spelling.toList := by
  cases text with
  | nil => simp [token?] at h
  | cons c tail =>
    simp only [token?] at h
    split at h
    · simp at h
    · split at h
      · simp at h
      · split at h
        · simp at h
        · split at h
          · next hnumber =>
            obtain ⟨rfl, -⟩ : String.ofList _ = spelling ∧ _ := by simpa using h
            rw [String.toList_ofList]
            exact isNumeral_of_cutNumber? hnumber
          · simp at h

theorem isNumeral_of_mem_lex {tokens : List Token} {spelling : String} (h : lex text = some tokens)
    (hmem : .number spelling ∈ tokens) : IsNumeral spelling.toList := by
  induction text using lex.induct generalizing tokens with
  | case1 =>
    rw [lex_nil, Option.some.injEq] at h
    simp [← h] at hmem
  | case2 c tail hspace ih => exact ih (lex_space tail hspace ▸ h) hmem
  | case3 c tail hspace hnone =>
    rw [lex, if_neg hspace] at h
    split at h
    · cases h
    · next hsome => simp [hnone] at hsome
  | case4 c tail hspace token after hsome ih =>
    rw [lex_of_token? (by simpa using hspace) hsome, Option.map_eq_some_iff] at h
    obtain ⟨others, hothers, rfl⟩ := h
    obtain rfl | hmem := List.mem_cons.mp hmem
    · exact isNumeral_of_token? hsome
    · exact ih hothers hmem

/-! ### Writing -/

theorem isDigits_digitsOf (n : Nat) : IsDigits (digitsOf n) :=
  ⟨Nat.toDigits_ne_nil, fun _ hc => Nat.isDigit_of_mem_toDigits (by decide) (by decide) hc⟩

theorem not_mem_digitsOf {c : Char} (h : c.isDigit = false) (n : Nat) : c ∉ digitsOf n := by
  intro hmem
  rw [(isDigits_digitsOf n).2 c hmem] at h
  cases h

theorem isDigits_zero : IsDigits ['0'] := by
  simp [IsDigits]

theorem isDigit_of_mem_zeros {n : Nat} {c : Char} (hc : c ∈ zeros n) : c.isDigit = true := by
  rw [(List.mem_replicate.mp hc).2]
  rfl

theorem IsDigits.behind_zeros (h : IsDigits digits) (n : Nat) : IsDigits (zeros n ++ digits) := by
  refine ⟨by simp [h.1], fun c hc => ?_⟩
  obtain hc | hc := List.mem_append.mp hc
  · exact isDigit_of_mem_zeros hc
  · exact h.2 c hc

theorem IsDigits.before_zeros (h : IsDigits digits) (n : Nat) : IsDigits (digits ++ zeros n) := by
  refine ⟨by simp [h.1], fun c hc => ?_⟩
  obtain hc | hc := List.mem_append.mp hc
  · exact h.2 c hc
  · exact isDigit_of_mem_zeros hc

theorem IsDigits.take (h : IsDigits digits) {n : Nat} (hn : 0 < n) : IsDigits (digits.take n) := by
  refine ⟨?_, fun c hc => h.2 c (List.mem_of_mem_take hc)⟩
  rw [Ne, List.take_eq_nil_iff]
  rintro (hzero | hnil)
  · omega
  · exact h.1 hnil

theorem IsDigits.drop (h : IsDigits digits) {n : Nat} (hn : digits.drop n ≠ []) :
    IsDigits (digits.drop n) :=
  ⟨hn, fun c hc => h.2 c (List.mem_of_mem_drop hc)⟩

theorem isUnsigned_fraction (h : IsDigits digits) (hplaces : IsDigits places) :
    IsUnsigned (digits ++ '.' :: places) := by
  have := IsUnsigned.parts h (.point hplaces) .none
  rwa [List.append_nil] at this

theorem isUnsigned_positional (h : IsDigits digits) (whole : Int) :
    IsUnsigned (positional digits whole) := by
  simp only [positional]
  split
  · exact isUnsigned_fraction isDigits_zero (h.behind_zeros _)
  · apply isUnsigned_fraction ((h.take (by omega)).before_zeros _)
    split
    · exact isDigits_zero
    · next hback =>
        apply h.drop
        simpa using hback

theorem isUnsigned_scientific {mark : Char} (hmark : isPowerMark mark = true) (h : IsDigits digits)
    (negative : Prop) [Decidable negative] (hplaces : IsDigits places) :
    IsUnsigned (digits.take 1 ++
      (if (digits.drop 1).isEmpty = true then [] else '.' :: digits.drop 1) ++
      mark :: (if negative then '-' else '+') :: places) := by
  apply IsUnsigned.parts (h.take (by decide))
  · split
    · exact .none
    · next hback => exact .point (h.drop (by simpa using hback))
  · split
    · exact .mark hmark .minus hplaces
    · exact .mark hmark .plus hplaces

theorem isUnsigned_digits (layout : NumberLayout) (d : ScaledDigits) : IsUnsigned (layout.digits d) := by
  have hdigits := isDigits_digitsOf d.digits
  simp only [NumberLayout.digits]
  split
  · exact isUnsigned_fraction isDigits_zero isDigits_zero
  · split
    · exact isUnsigned_positional hdigits _
    · exact isUnsigned_scientific (by decide) hdigits _ ((isDigits_digitsOf _).behind_zeros _)

theorem isUnsigned_unsignedDigits (coefficient : Nat) (exponent : Int) :
    IsUnsigned (Decimal.unsignedDigits coefficient exponent) := by
  have hdigits := isDigits_digitsOf coefficient
  simp only [Decimal.unsignedDigits]
  split
  · split
    · have := IsUnsigned.parts hdigits .none .none
      rwa [List.append_nil, List.append_nil] at this
    · split
      · exact isUnsigned_fraction isDigits_zero (hdigits.behind_zeros _)
      · exact isUnsigned_fraction (hdigits.take (by omega)) (hdigits.drop (by simp; omega))
  · exact isUnsigned_scientific (by decide) hdigits _ (isDigits_digitsOf _)

theorem IsUnsigned.isNumeral (h : IsUnsigned text) : IsNumeral text :=
  .signed .none h

theorem IsUnsigned.isNumeral_minus (h : IsUnsigned text) : IsNumeral ('-' :: text) :=
  .signed .minus h

theorem isNumeral_integerDigits (n : Int) : IsNumeral (integerDigits n) := by
  have hdigits := IsUnsigned.parts (isDigits_digitsOf n.natAbs) .none .none
  rw [List.append_nil, List.append_nil] at hdigits
  rw [integerDigits]
  split
  · exact hdigits.isNumeral_minus
  · exact hdigits.isNumeral

theorem isNumeral_shown {x : Binary64} (h : x.isFinite = true) : IsNumeral x.shown := by
  cases x with
  | finite negative magnitude =>
    have hdigits := isUnsigned_digits shownLayout magnitude.shortest
    cases negative with
    | false => exact hdigits.isNumeral
    | true => exact hdigits.isNumeral_minus
  | infinite => simp [Binary64.isFinite] at h
  | nan => simp [Binary64.isFinite] at h

theorem isNumeral_text {d : Decimal} (h : d.isFinite = true) : IsNumeral d.text := by
  cases d with
  | finite negative coefficient exponent =>
    have hdigits := isUnsigned_unsignedDigits coefficient exponent
    cases negative with
    | false => exact hdigits.isNumeral
    | true => exact hdigits.isNumeral_minus
  | infinite => simp [Decimal.isFinite] at h
  | nan => simp [Decimal.isFinite] at h

end Insights.Sql

import Insights.Proofs.Json.Number
import Insights.Proofs.Time.Calendar
import Insights.Sql.Literal

/-!
The order of moments and the order of their literals. A literal is made of numbers of fixed widths, the larger
units first, so of two literals the smaller text is that of the earlier moment, in whole milliseconds. With
offsets it is universal time that counts, and moments at the same universal time have the same literal.
-/

namespace Insights

/-! ### Texts that compare as numbers -/

/-- Two texts of one length are ordered as two numbers are. -/
structure ComparesAs (first second : List Char) (m n : Nat) : Prop where
  length : first.length = second.length
  lt : first < second ↔ m < n
  eq : first = second ↔ m = n

namespace ComparesAs

variable {first second front behind front' behind' : List Char} {m n m' n' : Nat}

theorem ofList_le_iff (h : ComparesAs first second m n) : String.ofList first ≤ String.ofList second ↔ m ≤ n := by
  rw [← String.not_lt, String.lt_iff, String.toList_ofList, String.toList_ofList, List.not_lt,
    List.le_iff_lt_or_eq, h.lt, h.eq, Nat.le_iff_lt_or_eq]

theorem same (text : List Char) : ComparesAs text text 0 0 :=
  ⟨rfl, by simp, by simp⟩

/-- Numbers may be exchanged for others in the same order. -/
theorem of_order (h : ComparesAs first second m n) (hlt : m < n ↔ m' < n') (heq : m = n ↔ m' = n') :
    ComparesAs first second m' n' :=
  ⟨h.length, h.lt.trans hlt, h.eq.trans heq⟩

/-- Of texts with fronts of one length, what is behind counts only after equal fronts. -/
theorem append_lt_append_iff (h : front.length = front'.length) :
    front ++ behind < front' ++ behind' ↔ front < front' ∨ front = front' ∧ behind < behind' := by
  induction front generalizing front' with
  | nil =>
    obtain rfl : front' = [] := List.length_eq_zero_iff.mp h.symm
    simp
  | cons c rest ih =>
    obtain ⟨d, rest', rfl⟩ := List.exists_cons_of_length_eq_add_one h.symm
    simp only [List.length_cons, Nat.add_right_cancel_iff] at h
    simp only [List.cons_append, List.cons_lt_cons_iff, ih h, List.cons.injEq]
    tauto

/-- A count of larger units and a rest below the unit are compared one after the other. -/
theorem units_lt_iff {unit : Nat} (hm : m' < unit) (hn : n' < unit) :
    m * unit + m' < n * unit + n' ↔ m < n ∨ m = n ∧ m' < n' := by
  rcases Nat.lt_trichotomy m n with hlt | rfl | hgt
  · have hstep : (m + 1) * unit ≤ n * unit := Nat.mul_le_mul_right unit hlt
    rw [Nat.add_mul] at hstep
    omega
  · omega
  · have hstep : (n + 1) * unit ≤ m * unit := Nat.mul_le_mul_right unit hgt
    rw [Nat.add_mul] at hstep
    omega

theorem units_eq_iff {unit : Nat} (hm : m' < unit) (hn : n' < unit) :
    m * unit + m' = n * unit + n' ↔ m = n ∧ m' = n' := by
  have hforth := units_lt_iff (m := m) (n := n) hm hn
  have hback := units_lt_iff (m := n) (n := m) hn hm
  omega

/-- A smaller unit stands behind the larger ones. -/
theorem append {unit : Nat} (h : ComparesAs front front' m n) (hbehind : ComparesAs behind behind' m' n')
    (hm : m' < unit) (hn : n' < unit) :
    ComparesAs (front ++ behind) (front' ++ behind') (m * unit + m') (n * unit + n') := by
  refine ⟨by simp [h.length, hbehind.length], ?_, ?_⟩
  · rw [append_lt_append_iff h.length, h.lt, h.eq, hbehind.lt, units_lt_iff hm hn]
  · rw [List.append_eq_append_iff_of_size_eq_left h.length, h.eq, hbehind.eq, units_eq_iff hm hn]

/-- A text that both have behind does not count. -/
theorem append_same (h : ComparesAs front front' m n) (text : List Char) :
    ComparesAs (front ++ text) (front' ++ text) m n := by
  simpa using h.append (same text) Nat.one_pos Nat.one_pos

/-- A text that both have in front does not count. -/
theorem same_append (h : ComparesAs behind behind' m n) (text : List Char) :
    ComparesAs (text ++ behind) (text ++ behind') m n := by
  have hunit : m < m + n + 1 ∧ n < m + n + 1 := by omega
  simpa using (same text).append h hunit.1 hunit.2

end ComparesAs

/-! ### Numbers of a fixed width -/

theorem digitValue_lt {c : Char} (h : c.isDigit = true) : c.toNat - '0'.toNat < 10 := by
  have hnine : '9'.toNat = '0'.toNat + 9 := rfl
  have := (Char.isDigit_iff_toNat.mp h).2
  omega

theorem ofDigitChars_cons (c : Char) (rest : List Char) :
    Nat.ofDigitChars 10 (c :: rest) 0 = (c.toNat - '0'.toNat) * 10 ^ rest.length + Nat.ofDigitChars 10 rest 0 := by
  rw [Nat.ofDigitChars_cons, Nat.ofDigitChars_eq_ofDigitChars_zero, Nat.mul_zero, Nat.zero_add, Nat.mul_comm]

theorem ofDigitChars_lt_pow {digits : List Char} (h : ∀ c ∈ digits, c.isDigit = true) :
    Nat.ofDigitChars 10 digits 0 < 10 ^ digits.length := by
  induction digits with
  | nil => simp
  | cons c rest ih =>
    rw [List.forall_mem_cons] at h
    have hrest := ih h.2
    calc Nat.ofDigitChars 10 (c :: rest) 0
      _ = (c.toNat - '0'.toNat) * 10 ^ rest.length + Nat.ofDigitChars 10 rest 0 := ofDigitChars_cons c rest
      _ < (c.toNat - '0'.toNat + 1) * 10 ^ rest.length := by
        rw [Nat.succ_mul]
        exact Nat.add_lt_add_left hrest _
      _ ≤ 10 * 10 ^ rest.length := Nat.mul_le_mul_right _ (digitValue_lt h.1)
      _ = 10 ^ (rest.length + 1) := (Nat.pow_succ' ..).symm

/-- Digits of one width compare as the numbers that they spell. -/
theorem ComparesAs.of_digits {digits others : List Char} (hdigits : ∀ c ∈ digits, c.isDigit = true)
    (hothers : ∀ c ∈ others, c.isDigit = true) (h : digits.length = others.length) :
    ComparesAs digits others (Nat.ofDigitChars 10 digits 0) (Nat.ofDigitChars 10 others 0) := by
  induction digits generalizing others with
  | nil =>
    obtain rfl : others = [] := List.length_eq_zero_iff.mp h.symm
    exact ComparesAs.same []
  | cons c rest ih =>
    obtain ⟨d, rest', rfl⟩ := List.exists_cons_of_length_eq_add_one h.symm
    rw [List.forall_mem_cons] at hdigits hothers
    have hlength : rest.length = rest'.length := by simpa using h
    have hc := (Char.isDigit_iff_toNat.mp hdigits.1).1
    have hd := (Char.isDigit_iff_toNat.mp hothers.1).1
    have hfirst : ComparesAs [c] [d] (c.toNat - '0'.toNat) (d.toNat - '0'.toNat) := by
      have hlt : c < d ↔ c.toNat < d.toNat := Iff.rfl
      refine ⟨rfl, ?_, ?_⟩
      · simp only [List.cons_lt_cons_iff, List.lt_irrefl, and_false, or_false, hlt]
        omega
      · simp only [List.cons.injEq, and_true, ← Char.toNat_inj]
        omega
    have hrest := ih hdigits.2 hothers.2 hlength
    rw [ofDigitChars_cons, ofDigitChars_cons, ← hlength]
    exact hfirst.append hrest (ofDigitChars_lt_pow hdigits.2) (hlength ▸ ofDigitChars_lt_pow hothers.2)

theorem length_paddedDigits {width n : Nat} (hwidth : 0 < width) (hn : n < 10 ^ width) :
    (paddedDigits width n).length = width := by
  have hle : (Nat.toDigits 10 n).length ≤ width := (Nat.length_toDigits_le_iff (by decide) hwidth).mpr hn
  simp only [paddedDigits, zeros, decimalLength, digitsOf, List.length_append, List.length_replicate]
  omega

/-- Numbers that fit into the width compare as their padded digits. -/
theorem ComparesAs.of_paddedDigits {width m n : Nat} (hwidth : 0 < width) (hm : m < 10 ^ width)
    (hn : n < 10 ^ width) : ComparesAs (paddedDigits width m) (paddedDigits width n) m n := by
  have hlength : (paddedDigits width m).length = (paddedDigits width n).length := by
    rw [length_paddedDigits hwidth hm, length_paddedDigits hwidth hn]
  have h := ComparesAs.of_digits (isDigits_paddedDigits width m).2 (isDigits_paddedDigits width n).2 hlength
  rwa [ofDigitChars_paddedDigits, ofDigitChars_paddedDigits] at h

/-! ### Days -/

theorem daysBeforeMonth_eq_sum (year month : Nat) :
    daysBeforeMonth year month = ((monthLengths year).take (month - 1)).sum := by
  rw [daysBeforeMonth, List.sum_eq_foldl]

/-- A month begins after the last day of the one before. -/
theorem daysBeforeMonth_succ (year : Nat) {month : Nat} (h : 1 ≤ month ∧ month ≤ 12) :
    daysBeforeMonth year (month + 1) = daysBeforeMonth year month + monthLength year month := by
  have hlt : month - 1 < (monthLengths year).length := Nat.lt_of_lt_of_le (by omega : month - 1 < 12) (Nat.le_refl _)
  have hmonth : month + 1 - 1 = month - 1 + 1 := by omega
  have hlength : monthLength year month = (monthLengths year)[month - 1] := by
    simp [monthLength, hlt]
  rw [daysBeforeMonth_eq_sum, daysBeforeMonth_eq_sum, hmonth, List.sum_take_succ _ _ hlt, hlength]

theorem daysBeforeMonth_mono (year : Nat) {month later : Nat} (h : month ≤ later) :
    daysBeforeMonth year month ≤ daysBeforeMonth year later := by
  have hprefix : (monthLengths year).take (month - 1) <+: (monthLengths year).take (later - 1) :=
    List.take_prefix_take_left (by omega)
  obtain ⟨between, hbetween⟩ := hprefix
  rw [daysBeforeMonth_eq_sum, daysBeforeMonth_eq_sum, ← hbetween, List.sum_append]
  exact Nat.le_add_right _ _

namespace Date

variable {d e : Date}

/-- The last day of a month is before the first one of the next. -/
theorem number_lt_of_month (d : Date) :
    d.number < daysBeforeYear d.year + daysBeforeMonth d.year (d.month + 1) := by
  rw [daysBeforeMonth_succ d.year d.month_mem, number]
  have := d.day_mem
  omega

theorem number_lt_of_year (d : Date) : d.number < daysBeforeYear (d.year + 1) := by
  have hmonths : daysBeforeMonth d.year (d.month + 1) ≤ daysBeforeMonth d.year 13 :=
    daysBeforeMonth_mono _ (Nat.succ_le_succ d.month_mem.2)
  have hyear : daysBeforeMonth d.year 13 = yearLength d.year := by
    rw [daysBeforeMonth_eq_sum, ← sum_monthLengths]
    rfl
  have hmonth := d.number_lt_of_month
  rw [daysBeforeYear_succ d.year_mem.1]
  omega

/-- Year, month and day as one number, in places of their own. -/
def places (d : Date) : Nat :=
  (d.year * 100 + d.month) * 100 + d.day

theorem places_le (d : Date) : d.year ≤ 9999 ∧ d.month ≤ 12 ∧ d.day ≤ 31 := by
  have hall : ∀ length ∈ monthLengths d.year, length ≤ 31 := by
    unfold monthLengths
    split <;> decide
  refine ⟨d.year_mem.2, d.month_mem.2, Nat.le_trans d.day_mem.2 ?_⟩
  rw [monthLength, List.getD_eq_getElem?_getD]
  cases hlength : (monthLengths d.year)[d.month - 1]? with
  | none => exact Nat.zero_le _
  | some length => exact hall length (List.mem_of_getElem? hlength)

theorem number_lt_number (h : d.places < e.places) : d.number < e.number := by
  have hplaces := d.places_le
  have hplaces' := e.places_le
  have hfirst : d.year < e.year ∨ d.year = e.year ∧ (d.month < e.month ∨ d.month = e.month ∧ d.day < e.day) := by
    simp only [places] at h
    omega
  rcases hfirst with hyear | ⟨hyear, hmonth | ⟨hmonth, hday⟩⟩
  · calc d.number < daysBeforeYear (d.year + 1) := d.number_lt_of_year
      _ ≤ daysBeforeYear e.year := daysBeforeYear_mono (by omega) hyear
      _ ≤ e.number := by rw [number]; omega
  · calc d.number < daysBeforeYear d.year + daysBeforeMonth d.year (d.month + 1) := d.number_lt_of_month
      _ ≤ daysBeforeYear e.year + daysBeforeMonth e.year e.month := by
        rw [hyear]
        exact Nat.add_le_add_left (daysBeforeMonth_mono _ hmonth) _
      _ ≤ e.number := Nat.le_add_right _ _
  · have := d.day_mem
    rw [number, number, hyear, hmonth]
    omega

theorem ext_places (h : d.places = e.places) : d = e := by
  have hplaces := d.places_le
  have hplaces' := e.places_le
  have hparts : d.year = e.year ∧ d.month = e.month ∧ d.day = e.day := by
    simp only [places] at h
    omega
  cases d
  cases e
  simpa using hparts

/-- A written day compares as the number of the day. -/
theorem comparesAs_iso (d e : Date) : ComparesAs d.iso e.iso d.number e.number := by
  have hplaces := d.places_le
  have hplaces' := e.places_le
  have hcompare : ComparesAs d.iso e.iso d.places e.places := by
    refine ((ComparesAs.of_paddedDigits ?_ ?_ ?_).append
      ((ComparesAs.of_paddedDigits ?_ ?_ ?_).same_append ['-']) ?_ ?_).append
      ((ComparesAs.of_paddedDigits ?_ ?_ ?_).same_append ['-']) ?_ ?_ <;> omega
  have hlt : d.places < e.places → d.number < e.number := number_lt_number
  have hgt : e.places < d.places → e.number < d.number := number_lt_number
  have heq : d.places = e.places → d.number = e.number := fun h => congrArg number (ext_places h)
  exact hcompare.of_order (by omega) (by omega)

end Date

/-! ### Times of day -/

/-- Every time of day has hours, minutes and seconds of two digits. -/
theorem comparesAs_clock {seconds later : Nat} (h : seconds < 86400) (hlater : later < 86400) :
    ComparesAs (clock seconds) (clock later) seconds later := by
  have hclock : ComparesAs (clock seconds) (clock later)
      ((seconds / 3600 * 60 + seconds / 60 % 60) * 60 + seconds % 60)
      ((later / 3600 * 60 + later / 60 % 60) * 60 + later % 60) := by
    refine ((ComparesAs.of_paddedDigits ?_ ?_ ?_).append
      ((ComparesAs.of_paddedDigits ?_ ?_ ?_).same_append [':']) ?_ ?_).append
      ((ComparesAs.of_paddedDigits ?_ ?_ ?_).same_append [':']) ?_ ?_ <;> omega
  exact hclock.of_order (by omega) (by omega)

/-! ### Moments -/

namespace Timestamp

/-- The whole milliseconds of a moment in universal time, cut off towards the past. Without an offset, the wall
clock counts. -/
def millisecond (t : Timestamp) : Int :=
  t.universal / 1000

/-- With three places, the wall clock compares as its whole milliseconds. -/
theorem comparesAs_millis (t u : Timestamp) : ComparesAs t.millis u.millis (t.wall / 1000) (u.wall / 1000) := by
  have hmicros := t.micros_lt
  have hmicros' := u.micros_lt
  simp only [microsPerDay] at hmicros hmicros'
  have hseconds := (comparesAs_clock (by omega : t.micros / 1000000 < 86400)
    (by omega : u.micros / 1000000 < 86400)).same_append ['T']
  have hplaces : ComparesAs ('.' :: paddedDigits 3 (t.micros % 1000000 / 1000))
      ('.' :: paddedDigits 3 (u.micros % 1000000 / 1000)) (t.micros % 1000000 / 1000)
      (u.micros % 1000000 / 1000) :=
    (ComparesAs.of_paddedDigits (by decide) (by omega) (by omega)).same_append ['.']
  have hmillis : ComparesAs t.millis u.millis
      ((t.date.number * 86400 + t.micros / 1000000) * 1000 + t.micros % 1000000 / 1000)
      ((u.date.number * 86400 + u.micros / 1000000) * 1000 + u.micros % 1000000 / 1000) :=
    ((t.date.comparesAs_iso u.date).append hseconds (by omega) (by omega)).append hplaces (by omega) (by omega)
  simp only [wall, microsPerDay]
  exact hmillis.of_order (by omega) (by omega)

theorem wall_of_ofWall? {wall : Int} {t : Timestamp} (h : ofWall? wall = some t) : (t.wall : Int) = wall := by
  unfold ofWall? at h
  split at h
  · cases h
  next hpos =>
    have hmicros : wall.toNat % microsPerDay < microsPerDay := Nat.mod_lt _ (by decide)
    cases hdate : Date.ofNumber? (wall.toNat / microsPerDay) with
    | none => simp [hdate] at h
    | some date =>
      have hnumber : date.number = wall.toNat / microsPerDay := Date.number_of_ofNumber? hdate
      simp only [hdate, Option.bind_eq_bind, Option.bind_some, ofParts?, dif_pos hmicros, Option.some.injEq] at h
      subst h
      simp only [Timestamp.wall, hnumber]
      have := Nat.div_add_mod' wall.toNat microsPerDay
      omega

/-- A literal is the wall clock of universal time, behind which the offset leaves its mark. -/
theorem literal?_eq_some {t : Timestamp} {text : List Char} (h : t.literal? = some text) :
    ∃ shown : Timestamp, (shown.wall : Int) = t.universal ∧
      text = shown.millis ++ if t.offset.isSome then ['Z'] else [] := by
  cases hoffset : t.offset with
  | none =>
    have htext : t.millis = text := by simpa [literal?, hoffset] using h
    exact ⟨t, by simp [universal, hoffset], by simp [htext]⟩
  | some seconds =>
    obtain ⟨shown, hshown, htext⟩ : ∃ shown, ofWall? (t.wall - seconds * microsPerSecond) = some shown ∧
        shown.millis ++ ['Z'] = text := by
      simpa [literal?, utc?, hoffset] using h
    exact ⟨shown, by simp [wall_of_ofWall? hshown, universal, hoffset], by simp [htext]⟩

/-- Literals of moments with offsets, and those of moments without, compare as universal time does. -/
theorem comparesAs_literal? {t u : Timestamp} {text other : List Char}
    (hoffset : t.offset.isSome = u.offset.isSome) (ht : t.literal? = some text) (hu : u.literal? = some other) :
    ∃ m n : Nat, (m : Int) = t.millisecond ∧ (n : Int) = u.millisecond ∧ ComparesAs text other m n := by
  obtain ⟨shown, hshown, rfl⟩ := literal?_eq_some ht
  obtain ⟨shown', hshown', rfl⟩ := literal?_eq_some hu
  refine ⟨shown.wall / 1000, shown'.wall / 1000, ?_, ?_, ?_⟩
  · rw [millisecond, ← hshown]
    rfl
  · rw [millisecond, ← hshown']
    rfl
  · rw [hoffset]
    exact (comparesAs_millis shown shown').append_same _

/-- Moments at the same universal time have the same literal, or none. -/
theorem literal?_congr {t u : Timestamp} (hoffset : t.offset.isSome = u.offset.isSome)
    (h : t.universal = u.universal) : t.literal? = u.literal? := by
  cases ht : t.offset with
  | none =>
    have hu : u.offset = none := by simpa [ht] using hoffset.symm
    have hwall : t.wall = u.wall := by
      simp only [universal, ht, hu] at h
      omega
    have hmillis := (comparesAs_millis t u).eq.mpr (congrArg (fun wall => wall / 1000) hwall)
    simp [literal?, ht, hu, hmillis]
  | some seconds =>
    obtain ⟨seconds', hu⟩ : ∃ seconds', u.offset = some seconds' := by
      rwa [ht, Option.isSome_some, eq_comm, Option.isSome_iff_exists] at hoffset
    simp only [universal, ht, hu, Option.getD_some] at h
    simp [literal?, utc?, ht, hu, h]

/-! ### Literals in a statement -/

theorem quote_not_mem_millis (t : Timestamp) : '\'' ∉ t.millis := by
  have hdigits (width n : Nat) : '\'' ∉ paddedDigits width n := fun hmem =>
    ne_of_isDigit ((isDigits_paddedDigits width n).2 _ hmem) rfl rfl
  simp [millis, Date.iso, clock, hdigits]

theorem quote_not_mem_literal? {t : Timestamp} {text : List Char} (h : t.literal? = some text) : '\'' ∉ text := by
  obtain ⟨shown, -, rfl⟩ := literal?_eq_some h
  rw [List.mem_append, not_or]
  refine ⟨shown.quote_not_mem_millis, ?_⟩
  split <;> simp

/-- A literal in a statement is the text between quotes. -/
theorem render_ofValue {t : Timestamp} {l : Sql.Literal} (h : Sql.Literal.ofValue (.timestamp t) = .ok l) :
    ∃ text, t.literal? = some text ∧ l.render = String.ofList (['\''] ++ text ++ ['\'']) := by
  cases ht : t.literal? with
  | none => simp [Sql.Literal.ofValue, Value.native, orFault, ht, Except.map] at h
  | some text =>
    obtain rfl : Sql.Literal.text (String.ofList text) = l := by
      simpa [Sql.Literal.ofValue, Value.native, orFault, ht, Except.map] using h
    have hinside : Text.doubled '\'' text = text := Text.doubled_of_not_mem (quote_not_mem_literal? ht)
    refine ⟨text, rfl, ?_⟩
    simp [Sql.Literal.render, Sql.quoteText, Text.quoted, hinside]

/-- The literals of moments are in the order of time: of two moments that both have an offset, or both have none,
the text is not after the other just when the whole millisecond of universal time is not, and so it is with the
texts in a statement. At the same universal time the text is the same. There is no literal just when universal
time leaves the calendar, and this is what a statement is refused for. -/
theorem literals_in_time_order (t u : Timestamp) (h : t.offset.isSome = u.offset.isSome) :
    (∀ text other, t.literal? = some text → u.literal? = some other →
      (String.ofList text ≤ String.ofList other ↔ t.millisecond ≤ u.millisecond)) ∧
    (∀ l m, Sql.Literal.ofValue (.timestamp t) = .ok l → Sql.Literal.ofValue (.timestamp u) = .ok m →
      (l.render ≤ m.render ↔ t.millisecond ≤ u.millisecond)) ∧
    (t.universal = u.universal → t.literal? = u.literal?) ∧
    (t.literal? = none ↔ t.LeavesCalendar) ∧
    (Sql.Literal.ofValue (.timestamp t) = .error .outOfRange ↔ t.LeavesCalendar) := by
  refine ⟨?_, ?_, literal?_congr h, t.literal?_eq_none_iff, ?_⟩
  · intro text other ht hu
    obtain ⟨m, n, hm, hn, hcompare⟩ := comparesAs_literal? h ht hu
    rw [hcompare.ofList_le_iff, ← hm, ← hn, Int.ofNat_le]
  · intro l m hl hm
    obtain ⟨text, ht, htext⟩ := render_ofValue hl
    obtain ⟨other, hu, hother⟩ := render_ofValue hm
    obtain ⟨m, n, hm, hn, hcompare⟩ := comparesAs_literal? h ht hu
    rw [htext, hother, ((hcompare.same_append ['\'']).append_same ['\'']).ofList_le_iff, ← hm, ← hn, Int.ofNat_le]
  · rw [← t.literal?_eq_none_iff]
    cases ht : t.literal? with
    | none => simp [Sql.Literal.ofValue, Value.native, orFault, ht, Except.map]
    | some text => simp [Sql.Literal.ofValue, Value.native, orFault, ht, Except.map]

/-- An hour and a half before the end of a leap day, five hours west. -/
def leapEvening : Timestamp :=
  ⟨⟨2024, 2, 29, by decide, by decide, by decide⟩, 81000000999, by decide, some (-18000)⟩

/-- Half an hour later, five and a half hours east. -/
def nextMorning : Timestamp :=
  ⟨⟨2024, 3, 1, by decide, by decide, by decide⟩, 34200000001, by decide, some 19800⟩

theorem literals_in_time_order_leapDay :
    leapEvening.offset.isSome = nextMorning.offset.isSome ∧
      leapEvening.literal? = some "2024-03-01T03:30:00.000Z".toList ∧
      nextMorning.literal? = some "2024-03-01T04:00:00.000Z".toList ∧
      ("2024-03-01T03:30:00.000Z" ≤ "2024-03-01T04:00:00.000Z" ↔
        leapEvening.millisecond ≤ nextMorning.millisecond) ∧
      ¬ leapEvening.LeavesCalendar := by
  have hoffset : leapEvening.offset.isSome = nextMorning.offset.isSome := rfl
  have hevening : leapEvening.literal? = some "2024-03-01T03:30:00.000Z".toList := by decide +kernel
  have hmorning : nextMorning.literal? = some "2024-03-01T04:00:00.000Z".toList := by decide +kernel
  obtain ⟨horder, -, -, hnone, -⟩ := literals_in_time_order leapEvening nextMorning hoffset
  refine ⟨hoffset, hevening, hmorning, ?_, ?_⟩
  · simpa using horder _ _ hevening hmorning
  · rw [← hnone, hevening]
    simp

end Timestamp

end Insights

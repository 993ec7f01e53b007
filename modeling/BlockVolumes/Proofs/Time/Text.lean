import BlockVolumes.Proofs.Text.Digits
import BlockVolumes.Proofs.Time.Calendar
import BlockVolumes.Time.Text

/-! Times read back from the text that is written of them. -/

namespace BlockVolumes.Time

open Text (trimStart isBlank)

theorem digit?_of_isDigit {c : Char} (digit : c.isDigit = true) :
    digit? c = some (c.toNat - 48) := by
  have bounds := Text.bounds_of_isDigit digit
  have inside : '0' ≤ c ∧ c ≤ '9' := by
    simpa [Char.le_def, UInt32.le_iff_toNat_le] using bounds
  simp only [digit?]
  rw [if_pos inside]

theorem isDigit_of_mem_padded {width n : Nat} {c : Char} (member : c ∈ padded width n) :
    c.isDigit = true := by
  rcases List.mem_append.1 member with zero | digit
  · rw [List.eq_of_mem_replicate zero]
    rfl
  · exact Text.isDigit_of_mem_toDigits digit

theorem padded_eq_cons (width n : Nat) :
    ∃ c ds, padded width n = c :: ds ∧ c.isDigit = true := by
  obtain ⟨c, ds, shown⟩ := List.exists_cons_of_ne_nil (l := padded width n) (by
    simp [padded, Nat.toDigits_ne_nil])
  exact ⟨c, ds, shown, isDigit_of_mem_padded (shown ▸ List.mem_cons_self)⟩

theorem ofDigitChars_padded (width n : Nat) : Nat.ofDigitChars 10 (padded width n) 0 = n := by
  simp [padded, Nat.ofDigitChars_append, Nat.ofDigitChars_replicate_zero,
    Nat.ofDigitChars_ten_toDigits]

theorem length_padded {width n : Nat} (positive : 0 < width) (fits : n < Nat.pow 10 width) :
    (padded width n).length = width := by
  have short := (Nat.length_toDigits_le_iff (by decide) positive).2 fits
  simp only [padded, List.length_append, List.length_replicate]
  omega

def Ended (s : List Char) : Prop := ∀ c ∈ s.head?, digit? c = none

theorem digits_append {ds : List Char} (digit : ∀ c ∈ ds, c.isDigit = true) {most : Nat}
    {rest : List Char} (fits : ds.length ≤ most) (ended : ds.length = most ∨ Ended rest) (n : Nat) :
    digits most n (ds ++ rest) = (Nat.ofDigitChars 10 ds n, rest) := by
  induction ds generalizing most n with
  | nil =>
    cases most with
    | zero => rfl
    | succ most =>
      cases rest with
      | nil => rfl
      | cons c rest =>
        have other : digit? c = none := by simpa [Ended] using ended
        simp [digits, other]
  | cons c ds ih =>
    obtain ⟨most, rfl⟩ : ∃ m, most = m + 1 := ⟨most - 1, by simp at fits; omega⟩
    have value := digit?_of_isDigit (digit c List.mem_cons_self)
    simp only [List.cons_append, digits, value]
    rw [ih (fun d member => digit d (List.mem_cons_of_mem _ member)) (by simpa using fits)
      (by simpa using ended), Text.ofDigitChars_cons]

theorem number_padded {width most n : Nat} (rest : List Char)
    (fits : (padded width n).length ≤ most)
    (ended : (padded width n).length = most ∨ Ended rest) :
    number most (padded width n ++ rest) = .ok (n, rest) := by
  have read := digits_append (fun c => isDigit_of_mem_padded) fits ended 0
  rw [ofDigitChars_padded] at read
  obtain ⟨c, ds, shown, digit⟩ := padded_eq_cons width n
  rw [shown, List.cons_append] at read ⊢
  simp [number, digit?_of_isDigit digit, read]

theorem trimStart_cons {c : Char} (noBlank : isBlank c = false) (s : List Char) :
    trimStart (c :: s) = c :: s := by
  simp [trimStart, noBlank]

theorem trimStart_padded (width n : Nat) (rest : List Char) :
    trimStart (padded width n ++ rest) = padded width n ++ rest := by
  obtain ⟨c, ds, shown, digit⟩ := padded_eq_cons width n
  rw [shown]
  exact trimStart_cons (Text.not_isBlank_of_isDigit digit) (ds ++ rest)

theorem field_padded {low high n : Nat} (above : low ≤ n) (below : n ≤ high) (short : n < 100)
    (rest : List Char) : field low high (padded 2 n ++ rest) = .ok (n, rest) := by
  have length : (padded 2 n).length = 2 := length_padded (by decide) short
  have read := number_padded rest (Nat.le_of_eq length) (.inl length)
  simp [field, trimStart_padded, read, above, below, bind, Except.bind]

theorem ended_dash (rest : List Char) : Ended ('-' :: rest) := by
  intro c member
  cases member
  rfl

theorem year_unsigned {n : Nat} (short : n ≤ 9999) (rest : List Char) :
    year (padded 4 n ++ '-' :: rest) = .ok ((n : Int), '-' :: rest) := by
  have fits : n < Nat.pow 10 4 := Nat.lt_of_le_of_lt short (by decide)
  have length : (padded 4 n).length = 4 := length_padded (by decide) fits
  have read := number_padded ('-' :: rest) (Nat.le_of_eq length) (.inl length)
  have trimmed := trimStart_padded 4 n ('-' :: rest)
  obtain ⟨c, ds, shown, digit⟩ := padded_eq_cons 4 n
  have inside : -2147483648 ≤ (n : Int) ∧ (n : Int) ≤ 2147483647 := by omega
  rw [shown, List.cons_append] at read trimmed ⊢
  simp only [year, trimmed]
  split
  · rename_i same
    rw [(List.cons.inj same).1] at digit
    cases digit
  · rename_i same
    rw [(List.cons.inj same).1] at digit
    cases digit
  · simp [read, Except.map, bind, Except.bind, inside]

theorem number_signed (n : Nat) (rest : List Char) :
    number (padded 4 n ++ '-' :: rest).length (padded 4 n ++ '-' :: rest) =
      .ok (n, '-' :: rest) :=
  number_padded _ (by simp) (.inr (ended_dash rest))

theorem year_writeYear {y : Int} (above : -2147483648 ≤ y) (below : y ≤ 2147483647)
    (rest : List Char) : year (writeYear y ++ '-' :: rest) = .ok (y, '-' :: rest) := by
  unfold writeYear
  split
  · rename_i plain
    rw [year_unsigned (by omega)]
    exact congrArg (fun y => Except.ok (y, '-' :: rest)) (by omega)
  · by_cases negative : y < 0
    · have value : -((y.natAbs : Nat) : Int) = y := by omega
      rw [if_pos negative, List.cons_append, year, trimStart_cons rfl]
      simp only [number_signed, Except.map, bind, Except.bind, value]
      rw [if_pos ⟨above, below⟩]
    · have value : ((y.natAbs : Nat) : Int) = y := by omega
      rw [if_neg negative, List.cons_append, year, trimStart_cons rfl]
      simp only [number_signed, Except.map, bind, Except.bind, value]
      rw [if_pos ⟨above, below⟩]

theorem fraction_padded {width n : Nat} (positive : 0 < width) (most : width ≤ 9)
    (fits : n < Nat.pow 10 width) :
    fraction ('.' :: padded width n ++ ['Z']) = .ok (n * Nat.pow 10 (9 - width), ['Z']) := by
  have length := length_padded positive fits
  have ended : Ended ['Z'] := by
    intro c member
    cases member
    rfl
  have read := number_padded ['Z'] (length.symm ▸ most) (.inr ended)
  have last : digit? 'Z' = none := rfl
  simp [fraction, read, bind, Except.bind, length, last]

theorem fraction_writeFraction {nanos : Nat} (short : nanos < 1000000000) :
    fraction (writeFraction nanos ++ ['Z']) = .ok (nanos, ['Z']) := by
  unfold writeFraction
  split
  · rename_i zero
    subst zero
    rfl
  · split
    · rw [fraction_padded (by decide) (by decide) (by simp only [Nat.pow_eq]; omega)]
      exact congrArg (fun n => Except.ok (n, ['Z'])) (by simp only [Nat.pow_eq]; omega)
    · split
      · rw [fraction_padded (by decide) (by decide) (by simp only [Nat.pow_eq]; omega)]
        exact congrArg (fun n => Except.ok (n, ['Z'])) (by simp only [Nat.pow_eq]; omega)
      · rw [fraction_padded (by decide) (by decide) (by simp only [Nat.pow_eq]; omega)]
        exact congrArg (fun n => Except.ok (n, ['Z'])) (by simp only [Nat.pow_eq]; omega)

theorem expect_cons {c : Char} (noBlank : isBlank c = false) (rest : List Char) :
    expect c (c :: rest) = .ok rest := by
  simp [expect, trimStart_cons noBlank]

theorem ofParts?_self (t : Time) : ofParts? t.seconds t.nanos = some t := by
  simp only [ofParts?]
  rw [dif_pos t.inRange, dif_pos t.nanosBounded]

open Calendar (yearOf lt_of_daysBefore_lt yearOf_spec) in
theorem year_bounds (t : Time) :
    -262143 ≤ yearOf (t.seconds / 86400 + Calendar.epoch) ∧
      yearOf (t.seconds / 86400 + Calendar.epoch) ≤ 262142 := by
  have ⟨started, notEnded⟩ := yearOf_spec (t.seconds / 86400 + Calendar.epoch)
  have ⟨first, last⟩ := t.inRange
  simp only [firstSecond, endSecond] at first last
  have low : -262143 < yearOf (t.seconds / 86400 + Calendar.epoch) + 1 := by
    apply lt_of_daysBefore_lt
    omega
  have high : yearOf (t.seconds / 86400 + Calendar.epoch) < 262143 := by
    apply lt_of_daysBefore_lt
    omega
  omega

theorem readChars_writeChars (t : Time) : readChars t.writeChars = .ok t := by
  have ⟨valid, toDays, year⟩ := Calendar.Date.ofDays_spec (t.seconds / 86400)
  have ⟨low, high⟩ := year_bounds t
  rw [← year] at low high
  have parts := ofParts?_self t
  have bounded := t.nanosBounded
  rw [writeChars]
  generalize Calendar.Date.ofDays (t.seconds / 86400) = date at *
  have inMonth : (1 ≤ date.month ∧ date.month ≤ 12) ∧ 1 ≤ date.day ∧ date.day ≤ 31 := by
    have := Calendar.monthLength_le date.year date.month
    simp only [Calendar.Date.isValid, Bool.and_eq_true, decide_eq_true_eq] at valid
    omega
  obtain ⟨⟨month1, month12⟩, day1, day31⟩ := inMonth
  simp only [List.append_assoc, List.cons_append]
  simp only [readChars, bind, Except.bind, year_writeYear (y := date.year) (by omega) (by omega),
    expect_cons (c := '-') rfl,
    field_padded month1 month12 (by omega), field_padded day1 day31 (by omega)]
  have noBlank : isBlank 'Z' = false := rfl
  have hour : (t.seconds % 86400).toNat / 3600 ≤ 23 := by omega
  have minute : (t.seconds % 86400).toNat / 60 % 60 ≤ 59 := by omega
  have second : (t.seconds % 86400).toNat % 60 + t.nanos / 1000000000 ≤ 60 := by omega
  simp only [or_true, true_or, if_true, field_padded (Nat.zero_le _) hour (by omega),
    field_padded (Nat.zero_le _) minute (by omega), field_padded (Nat.zero_le _) second (by omega),
    expect_cons (c := ':') rfl, fraction_writeFraction (Nat.mod_lt _ (by decide : 0 < 1000000000)),
    trimStart_cons noBlank, offset]
  have inYears : (!date.isValid || decide (date.year < -262143) ||
      decide (262142 < date.year)) = false := by
    simp only [valid, Bool.not_true, Bool.false_or, Bool.or_eq_false_iff,
      decide_eq_false_iff_not]
    omega
  rw [if_neg (by simp [trimStart]), if_neg (by simp [inYears]), if_neg (by decide)]
  by_cases leap : (t.seconds % 86400).toNat % 60 + t.nanos / 1000000000 = 60
  · rw [if_pos leap]
    have seconds : date.toDays * 86400 + ((t.seconds % 86400).toNat / 3600 : Nat) * 3600 +
        ((t.seconds % 86400).toNat / 60 % 60 : Nat) * 60 + (59 : Nat) - 0 = t.seconds := by omega
    have nanos : t.nanos % 1000000000 + 1000000000 = t.nanos := by omega
    rw [seconds, nanos, parts]
  · rw [if_neg leap]
    have seconds : date.toDays * 86400 + ((t.seconds % 86400).toNat / 3600 : Nat) * 3600 +
        ((t.seconds % 86400).toNat / 60 % 60 : Nat) * 60 +
        ((t.seconds % 86400).toNat % 60 + t.nanos / 1000000000 : Nat) - 0 = t.seconds := by omega
    have nanos : t.nanos % 1000000000 = t.nanos := by omega
    rw [seconds, nanos, parts]

theorem read_write (t : Time) : read t.write = .ok t := by
  rw [read, write, String.toList_ofList]
  exact readChars_writeChars t

example : (ofTicks 1500000000).write = "1970-01-01T00:00:01.500Z" := rfl

end BlockVolumes.Time

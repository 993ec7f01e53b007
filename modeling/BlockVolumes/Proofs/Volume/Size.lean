import BlockVolumes.Proofs.Text.Digits
import BlockVolumes.Proofs.Text.Letters
import BlockVolumes.Proofs.Text.Trim
import BlockVolumes.Volume.Options
import Mathlib.Algebra.Group.Nat.Defs

/-! Sizes are read just where they are written by the rules, and then as what they say. -/

namespace BlockVolumes

namespace Size

open Text (isBlank)

variable {s : List Char} {n : Nat}

def units : List (List Char × Nat) :=
  [([], 0), (['k'], 10), (['K'], 10), (['m'], 20), (['M'], 20), (['g'], 30), (['G'], 30),
    (['t'], 40), (['T'], 40)]

def binaryMarks : List (List Char) := [[], ['i'], ['I']]

def byteMarks : List (List Char) := [[], ['b'], ['B']]

/-- How a size is written: digits, blanks, and perhaps a unit letter, an `i` and a `b`. -/
inductive Written : List Char → Nat → Prop
  | of {ds blanks letter binary byte : List Char} {power : Nat} (some : ds ≠ [])
      (digit : ∀ c ∈ ds, c.isDigit = true) (blank : ∀ c ∈ blanks, isBlank c = true)
      (unit : (letter, power) ∈ units) (marked : binary ∈ binaryMarks)
      (ended : byte ∈ byteMarks) :
    Written (ds ++ blanks ++ letter ++ binary ++ byte) (Nat.ofDigitChars 10 ds 0 * 2 ^ power)

theorem digit?_eq (c : Char) : digit? c = if c.isDigit then some (c.toNat - 48) else none := by
  have inside : ('0' ≤ c ∧ c ≤ '9') ↔ c.isDigit = true := by
    simp only [Char.isDigit, Char.le_def, Bool.and_eq_true, decide_eq_true_eq]
  rw [digit?, ite_cond_congr (propext inside)]

theorem digit?_of_isDigit {c : Char} (digit : c.isDigit = true) :
    digit? c = some (c.toNat - 48) := by
  rw [digit?_eq, if_pos digit]

theorem digit?_of_not_isDigit {c : Char} (other : c.isDigit = false) : digit? c = none := by
  rw [digit?_eq, if_neg (Bool.eq_false_iff.1 other)]

theorem digits_spec (n : Nat) (s : List Char) : ∃ ds, s = ds ++ (digits n s).2 ∧
    (∀ c ∈ ds, c.isDigit = true) ∧ (digits n s).1 = Nat.ofDigitChars 10 ds n ∧
    ∀ c ∈ (digits n s).2.head?, c.isDigit = false := by
  induction s generalizing n with
  | nil => exact ⟨[], rfl, nofun, rfl, nofun⟩
  | cons c rest ih =>
    cases kind : c.isDigit with
    | false =>
      rw [digits, digit?_of_not_isDigit kind]
      exact ⟨[], rfl, nofun, rfl, by simpa using kind⟩
    | true =>
      obtain ⟨ds, whole, all, sum, ended⟩ := ih (10 * n + (c.toNat - 48))
      rw [digits, digit?_of_isDigit kind]
      refine ⟨c :: ds, congrArg (c :: ·) whole, ?_, ?_, ended⟩
      · simpa [kind] using all
      · rw [Text.ofDigitChars_cons]
        exact sum

theorem digits_append {ds rest : List Char} (digit : ∀ c ∈ ds, c.isDigit = true)
    (ended : ∀ c ∈ rest.head?, c.isDigit = false) (n : Nat) :
    digits n (ds ++ rest) = (Nat.ofDigitChars 10 ds n, rest) := by
  induction ds generalizing n with
  | nil =>
    cases rest with
    | nil => rfl
    | cons c rest =>
      show digits n (c :: rest) = (n, c :: rest)
      rw [digits, digit?_of_not_isDigit (ended c rfl)]
  | cons c ds ih =>
    obtain ⟨first, later⟩ := List.forall_mem_cons.1 digit
    show digits n (c :: (ds ++ rest)) = _
    rw [digits, digit?_of_isDigit first, Text.ofDigitChars_cons]
    exact ih later _

theorem unit_append : ∀ u ∈ units, ∀ binary ∈ binaryMarks, ∀ byte ∈ byteMarks,
    unit (u.1 ++ binary ++ byte) = (u.2, binary ++ byte) ∧
    skipLetter 'b' (skipLetter 'i' (binary ++ byte)) = [] ∧
    ((u.1 ++ binary ++ byte).head?.all fun c => !isBlank c && !c.isDigit) = true := by
  decide

theorem mem_units_of_power? {c : Char} {power : Nat} (known : power? c = some power) :
    ([c], power) ∈ units := by
  unfold power? at known
  split at known
  case h_1 letter | h_2 letter | h_3 letter | h_4 letter =>
    obtain rfl := Option.some.inj known
    rcases (Text.toLower_eq_letter (by decide) (by decide)).1 letter with rfl | rfl <;> decide
  case h_5 => cases known

theorem unit_spec (s : List Char) :
    ∃ letter, (letter, (unit s).1) ∈ units ∧ s = letter ++ (unit s).2 := by
  cases s with
  | nil => exact ⟨[], by decide, rfl⟩
  | cons c rest =>
    cases known : power? c with
    | none =>
      rw [unit, known]
      exact ⟨[], List.mem_cons_self, rfl⟩
    | some power =>
      rw [unit, known]
      exact ⟨[c], mem_units_of_power? known, rfl⟩

theorem skipLetter_spec (letter : Char) (least : 97 ≤ letter.toNat)
    (most : letter.toNat ≤ 122) (s : List Char) :
    ∃ mark ∈ [[], [letter], [Text.capital letter]], s = mark ++ skipLetter letter s := by
  cases s with
  | nil => exact ⟨[], by simp, rfl⟩
  | cons c rest =>
    by_cases same : c.toLower = letter
    · rw [skipLetter, if_pos same]
      rcases (Text.toLower_eq_letter least most).1 same with rfl | rfl
      · exact ⟨[c], by simp, rfl⟩
      · exact ⟨[Text.capital letter], by simp, rfl⟩
    · rw [skipLetter, if_neg same]
      exact ⟨[], by simp, rfl⟩

theorem not_isDigit_of_isBlank {c : Char} (blank : isBlank c = true) : c.isDigit = false := by
  cases digit : c.isDigit with
  | false => rfl
  | true => simp [Text.not_isBlank_of_isDigit digit] at blank

theorem head?_append_not_isDigit {blanks rest : List Char}
    (blank : ∀ c ∈ blanks, isBlank c = true) (other : ∀ c ∈ rest.head?, c.isDigit = false) :
    ∀ c ∈ (blanks ++ rest).head?, c.isDigit = false := by
  cases blanks with
  | nil => exact other
  | cons d blanks =>
    rintro c same
    obtain rfl : d = c := Option.some.inj same
    exact not_isDigit_of_isBlank (blank d List.mem_cons_self)

theorem ofChars?_of_written {n : Nat} (written : Written s n) :
    ofChars? s = if n < UInt64.size then some (UInt64.ofNat n) else none := by
  obtain @⟨ds, blanks, letter, binary, byte, power, some, digit, blank, unit, marked, ended⟩ :=
    written
  obtain ⟨read, skipped, apart⟩ := unit_append _ unit _ marked _ ended
  have start : ∀ c ∈ (letter ++ binary ++ byte).head?, isBlank c = false ∧ c.isDigit = false := by
    simpa [Option.all_eq_true] using apart
  obtain ⟨c, more, rfl⟩ := List.exists_cons_of_ne_nil some
  have whole : c :: more ++ blanks ++ letter ++ binary ++ byte =
      c :: more ++ (blanks ++ (letter ++ binary ++ byte)) := by simp
  have first : (digit? c).isNone = false := by
    rw [digit?_of_isDigit (digit c List.mem_cons_self)]
    rfl
  have counted := digits_append digit
    (head?_append_not_isDigit blank fun c there => (start c there).2) 0
  have dropped : (blanks ++ (letter ++ binary ++ byte)).dropWhile isBlank =
      letter ++ binary ++ byte := by
    rw [Text.dropWhile_append_of_all blank]
    exact Text.dropWhile_eq_self fun c there => (start c there).1
  rw [whole, List.cons_append]
  simp only [ofChars?, first, Bool.false_eq_true, if_false]
  rw [← List.cons_append, counted]
  simp only [dropped, read, skipped, true_and, Nat.shiftLeft_eq]

theorem marks_of_skipLetter (s : List Char) (done : skipLetter 'b' (skipLetter 'i' s) = []) :
    ∃ binary ∈ binaryMarks, ∃ byte ∈ byteMarks, s = binary ++ byte := by
  obtain ⟨binary, marked, whole⟩ := skipLetter_spec 'i' (by decide) (by decide) s
  obtain ⟨byte, ended, last⟩ := skipLetter_spec 'b' (by decide) (by decide) (skipLetter 'i' s)
  rw [done, List.append_nil] at last
  exact ⟨binary, marked, byte, ended, last ▸ whole⟩

theorem written_of_ofChars? {n : UInt64} (read : ofChars? s = some n) : Written s n.toNat := by
  cases s with
  | nil => cases read
  | cons c rest =>
    cases kind : c.isDigit with
    | false => simp [ofChars?, digit?_of_not_isDigit kind] at read
    | true =>
      obtain ⟨ds, whole, digit, sum, stopped⟩ := digits_spec 0 (c :: rest)
      rcases counted : digits 0 (c :: rest) with ⟨value, after⟩
      obtain ⟨letter, known, tail⟩ := unit_spec (after.dropWhile isBlank)
      rcases measured : unit (after.dropWhile isBlank) with ⟨power, left⟩
      rw [counted] at whole sum stopped
      rw [measured] at known tail
      simp only [ofChars?, digit?_of_isDigit kind, counted, measured, Option.isNone_some,
        Bool.false_eq_true, if_false] at read
      split at read
      case isFalse => cases read
      case isTrue fits =>
        obtain rfl := Option.some.inj read
        obtain ⟨binary, marked, byte, ended, rfl⟩ := marks_of_skipLetter left fits.1
        have some : ds ≠ [] := by
          rintro rfl
          obtain rfl : c :: rest = after := whole
          exact Bool.false_ne_true ((stopped c rfl).symm.trans kind)
        have text : c :: rest = ds ++ after.takeWhile isBlank ++ letter ++ binary ++ byte :=
          calc
            c :: rest = ds ++ after := whole
            _ = ds ++ (after.takeWhile isBlank ++ after.dropWhile isBlank) := by
              rw [List.takeWhile_append_dropWhile]
            _ = ds ++ (after.takeWhile isBlank ++ (letter ++ (binary ++ byte))) := by rw [tail]
            _ = _ := by simp
        have number : (UInt64.ofNat (value <<< power)).toNat =
            Nat.ofDigitChars 10 ds 0 * 2 ^ power := by
          rw [UInt64.toNat_ofNat_of_lt' fits.2, Nat.shiftLeft_eq]
          exact congrArg (· * 2 ^ power) sum
        rw [text, number]
        exact .of some digit (fun d => List.mem_takeWhile_imp) known marked ended

theorem ofChars?_eq_some {n : UInt64} : ofChars? s = some n ↔ Written s n.toNat := by
  refine ⟨written_of_ofChars?, fun written => ?_⟩
  rw [ofChars?_of_written written, if_pos n.toNat_lt_size, UInt64.ofNat_toNat]

theorem exists_small_iff {p : Nat → Prop} :
    (∃ n < 2 ^ 64, p n) ↔ ∃ n : UInt64, p n.toNat := by
  constructor
  · rintro ⟨n, small, holds⟩
    exact ⟨UInt64.ofNat n, by rwa [UInt64.toNat_ofNat_of_lt' small]⟩
  · rintro ⟨n, holds⟩
    exact ⟨n.toNat, n.toNat_lt_size, holds⟩

end Size

/-- A size is what its text says without the blanks around it, if that fits into 64 bits. Any other
text is refused as it was given. -/
theorem readSize_iff_written (value : String) : ∃ t, Text.Stripped value.toList t ∧
    (∀ n, readSize value = .ok n ↔ Size.Written t n.toNat) ∧
    (readSize value = .error (.invalidValue "size" value) ↔
      ¬ ∃ n < 2 ^ 64, Size.Written t n) := by
  have read : ∀ n, Size.read? value = some n ↔ Size.Written (Text.trim value.toList) n.toNat :=
    fun _ => Size.ofChars?_eq_some
  refine ⟨_, Text.stripped_trim value.toList, ?_, ?_⟩
  · intro n
    rw [← read, readSize]
    cases Size.read? value <;> simp
  · rw [Size.exists_small_iff, readSize]
    simp only [← read]
    cases Size.read? value <;> simp

/-- The sign for Kelvin is no unit letter, though its small form is one elsewhere. -/
example : readSize "1\u212A" = .error (.invalidValue "size" "1\u212A") := by decide

end BlockVolumes

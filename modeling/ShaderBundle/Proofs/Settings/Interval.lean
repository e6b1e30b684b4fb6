import Mathlib.Algebra.Order.Field.Basic
import Mathlib.Algebra.Order.Field.Rat
import Mathlib.Tactic.Positivity
import ShaderBundle.Settings.Reading

/-!
# Which texts of settings have no outcome

Settings are read field by field, and a field either stores a value, has a fault or gives up. Only
the interval can give up: over a number of seconds that passes both of its guards, not below zero
and not nothing, and still fits no word, or over words on which the reader of durations aborts.
Everything else that a document can hold becomes settings or an error, and settings that come out
have an interval that is not zero.

## For all readers

This is said for all readers of documents and of durations. So it does not matter which texts are
documents, what a document may hold twice, how durations are spelled, or whether a reader returns no
time at all for a spelling: whatever an abort of settings comes from is in the statement, and the
check of the interval is behind both readers. Nothing is assumed of the readers, not even that they
agree with themselves. Runs on fixed texts are made with the readers that are shipped.

## Guards of the interval

The first guard refuses what is below zero, the second what is no number; infinity passes both, and
so does any number of seconds from the bound of the word on. The whole seconds of a number are
compared with the bound as natural numbers, over a common denominator.
`Duration.ofBinary?_eq_none_iff` turns that into a comparison of rational numbers, so that the
statement about texts does not have to say how a binary number is put together.

## Before the interval

Fields are read in the order of the document, and a fault in one of them ends it. A document with a
bad field in front of an infinite interval is therefore an error and no abort, which is why the
fields before the interval are in the statement; those behind it do not matter.

## Main definitions

* `Binary.IsTooLong`: a number of seconds that is not negative and fits no word.
* `Settings.Defeats`: a value over which the interval gives up.

## Main results

* `Duration.ofBinary?_eq_none_iff` says which numbers are no duration, as rational numbers.
* `Settings.readField_eq_abort_iff` is what one field does, `Settings.readFields_eq_abort_iff` what
  the fields of a document do.
* `Settings.Readers.parse?_eq_none_iff` says of every text when it has no outcome, and what its
  interval is worth when it has settings.
-/

namespace ShaderBundle

namespace Binary

/-- The two parts of a power of two are its quotient. -/
theorem power_eq (exponent : Int) :
    0 < (power exponent).2 ∧ ((power exponent).1 : ℚ) / (power exponent).2 = 2 ^ exponent := by
  cases exponent with
  | ofNat n => simp [power]
  | negSucc n =>
    refine ⟨Nat.pow_pos (by decide), ?_⟩
    simp [power, zpow_negSucc]

/-- A number of seconds that is not negative and fits no word: infinity, or a number from the bound
of the word on. -/
def IsTooLong : Binary → Prop
  | .finite negative mantissa exponent =>
    negative = false ∧ (longBound : ℚ) ≤ mantissa * 2 ^ exponent
  | .infinite negative => negative = false
  | .nan _ => False

end Binary

/-- A finite number is no duration exactly if its whole seconds fit no word. -/
theorem Duration.ofBinary?_eq_none_iff (negative : Bool) (mantissa : Nat) (exponent : Int) :
    ofBinary? (.finite negative mantissa exponent) = none ↔
      (longBound : ℚ) ≤ mantissa * 2 ^ exponent := by
  obtain ⟨hdown, hpower⟩ := Binary.power_eq exponent
  have hdown' : (0 : ℚ) < (Binary.power exponent).2 := by exact_mod_cast hdown
  rw [← hpower, mul_div_assoc', le_div_iff₀ hdown']
  simp only [ofBinary?]
  -- Both sides are integers over one denominator.
  split
  next h => simpa using (by exact_mod_cast h :
    (mantissa : ℚ) * (Binary.power exponent).1 < longBound * (Binary.power exponent).2)
  next h => simpa using (by exact_mod_cast not_lt.mp h :
    (longBound : ℚ) * (Binary.power exponent).2 ≤ mantissa * (Binary.power exponent).1)

/-- A duration that is not zero lasts at least a nanosecond. -/
theorem Duration.inNanos_pos {duration : Duration} (h : duration.isZero = false) :
    0 < duration.inNanos := by
  simp only [isZero, Bool.and_eq_false_iff, decide_eq_false_iff_not] at h
  simp only [inNanos, nanosPerSecond]
  omega

namespace Settings

variable {readers : Readers}

/-! ### One field

Each of the other fields is followed through its cases once, to see that none of them gives up. The
interval has a case for each kind of value. -/

/-- Values over which the interval gives up: a number of seconds that is not negative and fits no
word, and words on which the reader of durations aborts. -/
inductive Defeats (readers : Readers) : Toml.Scalar → Prop where
  | float {number : Binary} (h : number.IsTooLong) : Defeats readers (.float number)
  | string {text : Text} (h : readers.duration text = none) : Defeats readers (.string text)

/-- Storing a value changes nothing about whether the reader gave up. -/
@[simp] theorem Reading.store_eq_abort_iff {α : Type} (set : α → Settings) (reading : Reading α) :
    reading.store set = .abort ↔ reading = .abort := by
  cases reading <;> simp [Reading.store]

@[simp] theorem unlike_ne_abort {α : Type} (item : Toml.Item) (expected : String) :
    (unlike item expected : Reading α) ≠ .abort := by
  simp [unlike]

theorem readVersion_ne_abort (item : Toml.Item) : readVersion item ≠ .abort := by
  unfold readVersion
  split
  · split <;> simp
  · simp

theorem readFlag_ne_abort (item : Toml.Item) : readFlag item ≠ .abort := by
  unfold readFlag
  split <;> simp

theorem readRootItems_ne_abort (items : List Toml.Item) : readRootItems items ≠ .abort := by
  fun_induction readRootItems items with
  | case1 => simp
  | case2 => simp
  | case3 _ _ _ _ ih => exact ih
  | case4 => simp

theorem readRoots_ne_abort (item : Toml.Item) : readRoots item ≠ .abort := by
  unfold readRoots
  split
  · exact readRootItems_ne_abort _
  all_goals simp

theorem readBackend_ne_abort (item : Toml.Item) : readBackend item ≠ .abort := by
  unfold readBackend
  split
  · split <;> simp
  · split
    · simp
    · split <;> simp
  all_goals simp

/-- Of the numbers an interval gives up exactly over those that pass the guard against negative ones
and the guard against values that are no number, and are too long. -/
theorem readInterval_float_eq_abort_iff (span : Toml.Span) (number : Binary) :
    readInterval readers (.scalar span (.float number)) = .abort ↔ number.IsTooLong := by
  cases number with
  | finite negative mantissa exponent =>
    cases negative with
    | true => simp [readInterval, Binary.isNegative, Binary.IsTooLong]
    | false =>
      simp only [readInterval, Binary.isNegative, Binary.IsTooLong, true_and,
        ← Duration.ofBinary?_eq_none_iff false]
      cases Duration.ofBinary? (.finite false mantissa exponent) <;> simp
  | infinite negative =>
    cases negative <;> simp [readInterval, Binary.isNegative, Binary.IsTooLong, Duration.ofBinary?]
  | nan negative => simp [readInterval, Binary.IsTooLong]

/-- Of the words it gives up exactly over those that the reader of durations aborts on. -/
theorem readInterval_string_eq_abort_iff (span : Toml.Span) (text : Text) :
    readInterval readers (.scalar span (.string text)) = .abort ↔ readers.duration text = none := by
  simp only [readInterval]
  rcases readers.duration text with _ | _ | _ <;> simp

/-- **What an interval gives up over.** -/
theorem readInterval_eq_abort_iff (item : Toml.Item) :
    readInterval readers item = .abort ↔
      ∃ span value, item = .scalar span value ∧ Defeats readers value := by
  cases item with
  | scalar span value =>
    have hvalue : (∃ span' value', Toml.Item.scalar span value = .scalar span' value' ∧
        Defeats readers value') ↔ Defeats readers value := by simp
    rw [hvalue]
    cases value with
    | string text =>
      rw [readInterval_string_eq_abort_iff]
      exact ⟨.string, fun | .string h => h⟩
    | float number =>
      rw [readInterval_float_eq_abort_iff]
      exact ⟨.float, fun | .float h => h⟩
    | integer n =>
      refine iff_of_false ?_ nofun
      simp only [readInterval]
      split <;> simp
    | boolean b => exact iff_of_false (by simp [readInterval]) nofun
    | datetime => exact iff_of_false (by simp [readInterval]) nofun
  | array span items => simp [readInterval]
  | table span form entries => simp [readInterval]
  | tables elements => simp [readInterval]

/-- Of all fields only the interval gives up. -/
theorem readField_eq_abort_iff (settings : Settings) (name : Text) (item : Toml.Item) :
    readField readers settings name item = .abort ↔
      name = "reload_interval".toList ∧ readInterval readers item = .abort := by
  unfold readField
  split
  next h => subst h; simp [readVersion_ne_abort]
  split
  next h => subst h; simp [readRoots_ne_abort]
  split
  next h => subst h; simp [readBackend_ne_abort]
  split
  next h => simp [h]
  split
  next h => subst h; simp [readFlag_ne_abort]
  split
  next h => subst h; simp [readFlag_ne_abort]
  next h _ _ => exact iff_of_false (by simp) fun ⟨hname, _⟩ => h hname

/-! ### The fields of a document

The induction is on the fields, for whatever was read before them, since what is read is handed on
from field to field. -/

/-- The reader of a document gives up at the first field that does, and only if the fields before it
were read. -/
theorem readFields_eq_abort_iff (settings : Settings) (entries : Toml.Entries) :
    readFields readers settings entries = .abort ↔
      ∃ before key item after, entries = before ++ (key, item) :: after ∧
        (∃ read, readFields readers settings before = .value read) ∧
        key.name = "reload_interval".toList ∧ readInterval readers item = .abort := by
  induction entries generalizing settings with
  | nil => simp [readFields]
  | cons entry rest ih =>
    obtain ⟨key, item⟩ := entry
    have hfirst := @readField_eq_abort_iff readers settings key.name item
    cases hread : readField readers settings key.name item with
    -- The field was read, so it is not the one that gives up; that one comes later.
    | value read =>
      have hkeeps :
          ¬(key.name = "reload_interval".toList ∧ readInterval readers item = .abort) := by
        rw [← hfirst, hread]
        simp
      rw [readFields, hread, ih]
      constructor
      · rintro ⟨before, key', item', after, rfl, ⟨last, hlast⟩, hgives⟩
        exact ⟨(key, item) :: before, key', item', after, rfl,
          ⟨last, by rw [readFields, hread]; exact hlast⟩, hgives⟩
      · rintro ⟨before, key', item', after, hsplit, ⟨last, hlast⟩, hgives⟩
        cases before with
        | nil =>
          obtain ⟨⟨rfl, rfl⟩, -⟩ := by simpa using hsplit
          exact absurd hgives hkeeps
        | cons first before =>
          obtain ⟨rfl, rfl⟩ := List.cons.inj hsplit
          rw [readFields, hread] at hlast
          exact ⟨before, key', item', after, rfl, ⟨last, hlast⟩, hgives⟩
    -- A fault ends the document. Nothing in front of it gives up, and nothing behind it is read.
    | fault place fault =>
      rw [readFields, hread]
      refine iff_of_false (by simp) ?_
      rintro ⟨before, key', item', after, hsplit, ⟨last, hlast⟩, hgives⟩
      cases before with
      | nil =>
        obtain ⟨⟨rfl, rfl⟩, -⟩ := by simpa using hsplit
        rw [hfirst.mpr hgives] at hread
        cases hread
      | cons first before =>
        obtain ⟨rfl, rfl⟩ := List.cons.inj hsplit
        rw [readFields, hread] at hlast
        cases hlast
    -- This is the field.
    | abort =>
      rw [readFields, hread]
      exact iff_of_true rfl ⟨[], key, item, rest, rfl, ⟨settings, rfl⟩, hfirst.mp hread⟩

/-! ### A text

A document may be none, its fields may have faults, and settings may fail their check. Only the
first two are decided by reading. -/

/-- Settings that pass their check have an interval that is not zero. -/
theorem check_eq_ok {settings checked : Settings} (h : settings.check = .ok checked) :
    checked = settings ∧ 0 < settings.interval.inNanos := by
  unfold check at h
  split at h
  · cases h
  next hfault =>
    cases h
    refine ⟨rfl, Duration.inNanos_pos ?_⟩
    -- The check of the interval is the last of four.
    unfold fault? at hfault
    split at hfault
    · cases hfault
    split at hfault
    · cases hfault
    split at hfault
    · cases hfault
    split at hfault
    · cases hfault
    next hzero => simpa using hzero

namespace Readers

theorem parse?_eq_none_iff_readFields (text : Text) :
    readers.parse? text = none ↔
      ∃ entries, readers.document text = some entries ∧
        readFields readers usual entries = .abort := by
  unfold parse?
  cases readers.document text with
  | none => simp
  | some entries => cases hfields : readFields readers usual entries <;> simp [hfields]

theorem parse?_eq_some_ok {text : Text} {settings : Settings}
    (h : readers.parse? text = some (.ok settings)) : settings.check = .ok settings := by
  unfold parse? at h
  split at h
  · cases h
  split at h
  next read _ =>
    obtain ⟨rfl, -⟩ := check_eq_ok (Option.some.inj h)
    exact Option.some.inj h
  · cases h
  · cases h

/-- **Which texts of settings have no outcome**, whatever they are read with: exactly those that are
documents in which the fields before the interval can be read, and the interval is a number of
seconds that is not negative and fits no word, or words on which the reader of durations aborts.
Every other text gives an error or settings, and the interval of settings is never zero. -/
theorem parse?_eq_none_iff (readers : Readers) (text : Text) :
    (readers.parse? text = none ↔ ∃ before key span value after,
      readers.document text = some (before ++ (key, .scalar span value) :: after) ∧
      (∃ read, readFields readers usual before = .value read) ∧
      key.name = "reload_interval".toList ∧ Defeats readers value) ∧
    ∀ settings, readers.parse? text = some (.ok settings) → 0 < settings.interval.inNanos := by
  refine ⟨?_, fun settings hsettings => (check_eq_ok (parse?_eq_some_ok hsettings)).2⟩
  simp only [parse?_eq_none_iff_readFields, readFields_eq_abort_iff, readInterval_eq_abort_iff]
  constructor
  · rintro ⟨_, hread, before, key, _, after, rfl, hbefore, hname, span, value, rfl, hdefeats⟩
    exact ⟨before, key, span, value, after, hread, hbefore, hname, hdefeats⟩
  · rintro ⟨before, key, span, value, after, hread, hbefore, hname, hdefeats⟩
    exact ⟨_, hread, before, key, _, after, rfl, hbefore, hname, span, value, rfl, hdefeats⟩

/-- Two and a half seconds. -/
theorem parse?_eq_none_iff_fraction :
    shipped.parse? "reload_interval = 2.5".toList =
        some (.ok { usual with interval := ⟨2, 500000000⟩ }) ∧
      0 < ({ usual with interval := ⟨2, 500000000⟩ } : Settings).interval.inNanos := by
  have hread : shipped.parse? "reload_interval = 2.5".toList =
      some (.ok { usual with interval := ⟨2, 500000000⟩ }) := by decide +kernel
  exact ⟨hread, (parse?_eq_none_iff shipped _).2 _ hread⟩

end Readers

/-- Infinity passes both guards of the interval. -/
theorem parse?_infinite : parse? "reload_interval = inf".toList = none := by
  decide +kernel

/-- The first number that fits no word has no outcome either, the last before it does. -/
example : parse? "reload_interval = 18446744073709551616.0".toList = none ∧
    parse? "reload_interval = 18446744073709549568.0".toList =
      some (.ok { usual with interval := ⟨18446744073709549568, 0⟩ }) := by
  decide +kernel

end Settings

end ShaderBundle

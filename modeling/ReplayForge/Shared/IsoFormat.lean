import ReplayForge.Shared.Timestamp
import Mathlib.Data.List.Basic
import Mathlib.Tactic.Ring

/-!
# The text of a timestamp

The ISO 8601 text of a timestamp, with the offset `+00:00` replaced by `Z`.
Two timestamps with the same text are equal.
-/

namespace ReplayForge

namespace IsoFormat

/-- The last digits of a number, with leading zeros. -/
def digits : (width : Nat) → Nat → List Char
  | 0, _ => []
  | width + 1, value =>
      digits width (value / 10) ++ [Char.ofNat (48 + value % 10)]

@[simp]
theorem length_digits (width value : Nat) :
    (digits width value).length = width := by
  induction width generalizing value with
  | zero => rfl
  | succ width ih => simp [digits, ih]

/-- The digit characters tell the digits apart. -/
theorem digitChars : ∀ first second : Fin 10,
    (Char.ofNat (48 + first)).isDigit = true ∧
      (Char.ofNat (48 + first) = Char.ofNat (48 + second) →
        first = second) := by
  decide

theorem digits_inj {width first second : Nat} (small : first < 10 ^ width)
    (small' : second < 10 ^ width)
    (same : digits width first = digits width second) : first = second := by
  induction width generalizing first second with
  | zero => omega
  | succ width ih =>
      rw [pow_succ] at small small'
      obtain ⟨early, late⟩ := List.append_inj' same rfl
      have high : first / 10 = second / 10 := ih (by omega) (by omega) early
      have low := (digitChars ⟨first % 10, Nat.mod_lt _ (by decide)⟩
        ⟨second % 10, Nat.mod_lt _ (by decide)⟩).2 (List.singleton_inj.mp late)
      have low' : first % 10 = second % 10 := congrArg Fin.val low
      omega

theorem isDigit_of_mem {width value : Nat} {char : Char}
    (member : char ∈ digits width value) : char.isDigit = true := by
  induction width generalizing value with
  | zero => cases member
  | succ width ih =>
      rcases List.mem_append.mp member with early | late
      · exact ih early
      · rw [List.mem_singleton.mp late]
        exact (digitChars ⟨value % 10, Nat.mod_lt _ (by decide)⟩ 0).1

theorem not_mem_digits {width value : Nat} {char : Char}
    (mark : char.isDigit = false) : char ∉ digits width value := by
  intro member
  rw [isDigit_of_mem member] at mark
  cases mark

end IsoFormat

namespace Offset

open IsoFormat

/-- The seconds of an offset, when there are any. -/
def rest (offset : Offset) : List Char :=
  if offset.seconds.val = 0 ∧ offset.microseconds.val = 0 then []
  else ':' :: digits 2 offset.seconds ++
    if offset.microseconds.val = 0 then []
    else '.' :: digits 6 offset.microseconds

def chars (offset : Offset) : List Char :=
  (if offset.isNegative then '-' else '+') ::
    (digits 2 offset.hours ++ ':' :: digits 2 offset.minutes) ++ offset.rest

end Offset

namespace Timestamp

open IsoFormat

/-- The date and the time of day up to the second. -/
def clock (value : Timestamp) : List Char :=
  digits 4 value.year ++ '-' :: digits 2 value.month ++
    '-' :: digits 2 value.day ++ 'T' :: digits 2 value.hour ++
    ':' :: digits 2 value.minute ++ ':' :: digits 2 value.second

def fraction (value : Timestamp) : List Char :=
  if value.microsecond.val = 0 then [] else '.' :: digits 6 value.microsecond

/-- `value.isoformat()` -/
def isoformat (value : Timestamp) : List Char :=
  value.clock ++ value.fraction ++
    match value.offset with
    | none => []
    | some offset => offset.chars

/-- `text.replace(old, new)` for an `old` that is not empty, after some
characters of an occurrence have been passed. -/
def replaceFrom (old new : List Char) : Nat → List Char → List Char
  | _, [] => []
  | passed + 1, _ :: rest => replaceFrom old new passed rest
  | 0, char :: rest =>
      if old.isPrefixOf (char :: rest) then
        new ++ replaceFrom old new (old.length - 1) rest
      else
        char :: replaceFrom old new 0 rest

/-- `value.isoformat().replace("+00:00", "Z")` -/
def canonical (value : Timestamp) : String :=
  String.ofList (replaceFrom "+00:00".toList "Z".toList 0 value.isoformat)

/-- The text of the offset after the replacement. -/
def zone : Option Offset → List Char
  | none => []
  | some offset =>
      if offset.isNegative = false ∧ offset.hours = 0 ∧ offset.minutes = 0 then
        'Z' :: offset.rest
      else
        offset.chars

section Replacement

theorem replaceFrom_append {before rest : List Char}
    (clean : '+' ∉ before) :
    replaceFrom "+00:00".toList "Z".toList 0 (before ++ rest) =
      before ++ replaceFrom "+00:00".toList "Z".toList 0 rest := by
  induction before with
  | nil => rfl
  | cons char before ih =>
      rw [List.mem_cons, not_or] at clean
      have other : "+00:00".toList.isPrefixOf (char :: (before ++ rest)) =
          false := by
        simp [List.isPrefixOf, clean.1]
      rw [List.cons_append, replaceFrom, other, ih clean.2]
      rfl

theorem replaceFrom_clean {text : List Char} (clean : '+' ∉ text) :
    replaceFrom "+00:00".toList "Z".toList 0 text = text := by
  have whole := @replaceFrom_append text [] clean
  simpa [replaceFrom] using whole

theorem clean_clock (value : Timestamp) : '+' ∉ value.clock := by
  simp [clock, not_mem_digits]

theorem clean_fraction (value : Timestamp) : '+' ∉ value.fraction := by
  unfold fraction
  split
  · simp
  · simp [not_mem_digits]

theorem clean_rest (offset : Offset) : '+' ∉ offset.rest := by
  unfold Offset.rest
  split
  · simp
  · split <;> simp [not_mem_digits]

theorem replaceFrom_chars (offset : Offset) :
    replaceFrom "+00:00".toList "Z".toList 0 offset.chars =
      zone (some offset) := by
  have clean := clean_rest offset
  cases sign : offset.isNegative with
  | true =>
      rw [replaceFrom_clean]
      · simp [zone, sign]
      · simp [Offset.chars, sign, not_mem_digits, clean]
  | false =>
      by_cases zero : offset.hours = 0 ∧ offset.minutes = 0
      · have rest := replaceFrom_clean clean
        simp only [zone, sign, zero, Offset.chars]
        simpa [digits, replaceFrom, List.isPrefixOf] using rest
      · have tail : '+' ∉ digits 2 offset.hours ++ ':' ::
            digits 2 offset.minutes ++ offset.rest := by
          simp [not_mem_digits, clean]
        have other : "+00:00".toList.isPrefixOf ('+' :: (digits 2 offset.hours
            ++ ':' :: digits 2 offset.minutes ++ offset.rest)) = false := by
          rw [Bool.eq_false_iff]
          intro start
          obtain ⟨others, whole⟩ := List.isPrefixOf_iff_prefix.mp start
          have whole' : ['0', '0'] ++ (':' :: (['0', '0'] ++ others)) =
              digits 2 offset.hours ++ (':' ::
                (digits 2 offset.minutes ++ offset.rest)) := by
            simpa using whole
          obtain ⟨hours, later⟩ := List.append_inj whole' (by simp)
          obtain ⟨minutes, -⟩ :=
            List.append_inj (List.cons_inj_right _ |>.mp later) (by simp)
          refine zero ⟨?_, ?_⟩
          · apply Fin.ext
            exact digits_inj (by omega) (by decide) hours.symm
          · apply Fin.ext
            exact digits_inj (by omega) (by decide) minutes.symm
        have text : offset.chars = '+' :: (digits 2 offset.hours ++ ':' ::
            digits 2 offset.minutes ++ offset.rest) := by
          simp [Offset.chars, sign]
        have kept : zone (some offset) = offset.chars := by
          simp only [zone, zero, and_false, if_false]
        rw [kept, text, replaceFrom, other, replaceFrom_clean tail]
        rfl

theorem canonical_eq (value : Timestamp) :
    value.canonical = String.ofList
      (value.clock ++ (value.fraction ++ zone value.offset)) := by
  unfold canonical isoformat
  rw [List.append_assoc, replaceFrom_append (clean_clock value),
    replaceFrom_append (clean_fraction value)]
  cases value.offset with
  | none => rfl
  | some offset => simp only [replaceFrom_chars]

end Replacement

section Injectivity

/-- A part that is left out when it is nothing. -/
theorem fraction_inj {width first second : Nat} {early late : List Char}
    (small : first < 10 ^ width) (small' : second < 10 ^ width)
    (marked : ∀ char ∈ early.head?, char ≠ '.')
    (dotless : ∀ char ∈ late.head?, char ≠ '.')
    (same : (if first = 0 then [] else '.' :: digits width first) ++ early =
      (if second = 0 then [] else '.' :: digits width second) ++ late) :
    first = second ∧ early = late := by
  by_cases none : first = 0
  · by_cases none' : second = 0
    · subst first second
      exact ⟨rfl, by simpa using same⟩
    · simp only [none, none', if_true, if_false, List.nil_append] at same
      rw [same] at marked
      exact (marked '.' rfl rfl).elim
  · by_cases none' : second = 0
    · simp only [none, none', if_true, if_false, List.nil_append] at same
      rw [← same] at dotless
      exact (dotless '.' rfl rfl).elim
    · simp only [none, none', if_false, List.cons_append,
        List.cons.injEq, true_and] at same
      obtain ⟨text, later⟩ := List.append_inj same (by simp)
      exact ⟨digits_inj small small' text, later⟩

theorem rest_inj {first second : Offset} (same : first.rest = second.rest) :
    first.seconds = second.seconds ∧
      first.microseconds = second.microseconds := by
  unfold Offset.rest at same
  by_cases none : first.seconds.val = 0 ∧ first.microseconds.val = 0
  · by_cases none' : second.seconds.val = 0 ∧ second.microseconds.val = 0
    · exact ⟨Fin.ext (none.1.trans none'.1.symm),
        Fin.ext (none.2.trans none'.2.symm)⟩
    · rw [if_pos none, if_neg none'] at same
      cases same
  · by_cases none' : second.seconds.val = 0 ∧ second.microseconds.val = 0
    · rw [if_neg none, if_pos none'] at same
      cases same
    · rw [if_neg none, if_neg none', List.cons_append, List.cons_append,
        List.cons.injEq] at same
      obtain ⟨seconds, micro⟩ := List.append_inj same.2 (by simp)
      have micro' := @fraction_inj 6 first.microseconds second.microseconds
        [] [] (by omega) (by omega) (fun _ none => nomatch none)
        (fun _ none => nomatch none) (congrArg (· ++ []) micro)
      exact ⟨Fin.ext (digits_inj (by omega) (by omega) seconds),
        Fin.ext micro'.1⟩

theorem offset_ext {first second : Offset}
    (sign : first.isNegative = second.isNegative)
    (hours : first.hours = second.hours)
    (minutes : first.minutes = second.minutes)
    (rest : first.rest = second.rest) : first = second := by
  obtain ⟨seconds, micro⟩ := rest_inj rest
  cases first
  cases second
  simp_all

theorem chars_inj {first second : Offset}
    (same : first.chars = second.chars) : first = second := by
  unfold Offset.chars at same
  rw [List.cons_append, List.cons_append, List.cons.injEq, List.append_assoc,
    List.append_assoc] at same
  obtain ⟨sign, same⟩ := same
  obtain ⟨hours, same⟩ := List.append_inj same (by simp)
  rw [List.cons_append, List.cons_append, List.cons.injEq] at same
  obtain ⟨minutes, rest⟩ := List.append_inj same.2 (by simp)
  refine offset_ext ?_ (Fin.ext (digits_inj (by omega) (by omega) hours))
    (Fin.ext (digits_inj (by omega) (by omega) minutes)) rest
  revert sign
  cases first.isNegative <;> cases second.isNegative <;> simp

/-- The text of an offset starts with its sign. -/
theorem chars_cons (offset : Offset) :
    ∃ sign rest, offset.chars = sign :: rest ∧ (sign = '-' ∨ sign = '+') := by
  refine ⟨_, _, rfl, ?_⟩
  cases offset.isNegative
  · exact .inr rfl
  · exact .inl rfl

/-- Only a zero offset is replaced, and what follows it stays. -/
theorem zone_cases (offset : Offset) :
    (offset.isNegative = false ∧ offset.hours = 0 ∧ offset.minutes = 0) ∧
        zone (some offset) = 'Z' :: offset.rest ∨
      zone (some offset) = offset.chars := by
  by_cases zero : offset.isNegative = false ∧ offset.hours = 0 ∧
      offset.minutes = 0
  · exact .inl ⟨zero, if_pos zero⟩
  · exact .inr (if_neg zero)

/-- The text of a zone starts with a sign or a Z. -/
theorem zone_cons (offset : Offset) :
    ∃ sign rest, zone (some offset) = sign :: rest ∧ sign ≠ '.' := by
  rcases zone_cases offset with ⟨-, text⟩ | text
  · exact ⟨_, _, text, by decide⟩
  · obtain ⟨sign, rest, whole, either⟩ := chars_cons offset
    refine ⟨sign, rest, text.trans whole, ?_⟩
    rcases either with rfl | rfl <;> decide

theorem head_zone {offset : Option Offset} :
    ∀ char ∈ (zone offset).head?, char ≠ '.' := by
  intro char member
  cases offset with
  | none => cases member
  | some offset =>
      obtain ⟨sign, rest, text, other⟩ := zone_cons offset
      rw [text] at member
      cases member
      exact other

theorem zone_inj {first second : Option Offset}
    (same : zone first = zone second) : first = second := by
  cases first with
  | none =>
      cases second with
      | none => rfl
      | some second =>
          obtain ⟨_, _, text, -⟩ := zone_cons second
          rw [text] at same
          cases same
  | some first =>
      cases second with
      | none =>
          obtain ⟨_, _, text, -⟩ := zone_cons first
          rw [text] at same
          cases same
      | some second =>
          obtain ⟨_, _, chars, either⟩ := chars_cons first
          obtain ⟨_, _, chars', either'⟩ := chars_cons second
          rcases zone_cases first with ⟨zero, text⟩ | text <;>
            rcases zone_cases second with ⟨zero', text'⟩ | text' <;>
            rw [text, text'] at same
          · rw [List.cons.injEq] at same
            rw [offset_ext (zero.1.trans zero'.1.symm)
              (zero.2.1.trans zero'.2.1.symm)
              (zero.2.2.trans zero'.2.2.symm) same.2]
          · rw [chars', List.cons.injEq] at same
            rw [← same.1] at either'
            simp at either'
          · rw [chars, List.cons.injEq] at same
            rw [same.1] at either
            simp at either
          · rw [chars_inj same]

theorem length_clock (value : Timestamp) : value.clock.length = 19 := by
  simp [clock]

theorem clock_inj {first second : Timestamp}
    (same : first.clock = second.clock) :
    first.year = second.year ∧ first.month = second.month ∧
      first.day = second.day ∧ first.hour = second.hour ∧
      first.minute = second.minute ∧ first.second = second.second := by
  unfold clock at same
  simp only [List.append_assoc, List.cons_append] at same
  obtain ⟨year, same⟩ := List.append_inj same (by simp)
  obtain ⟨month, same⟩ :=
    List.append_inj (List.cons.inj same).2 (by simp)
  obtain ⟨day, same⟩ := List.append_inj (List.cons.inj same).2 (by simp)
  obtain ⟨hour, same⟩ := List.append_inj (List.cons.inj same).2 (by simp)
  obtain ⟨minute, same⟩ := List.append_inj (List.cons.inj same).2 (by simp)
  have last := (List.cons.inj same).2
  exact ⟨Fin.ext (digits_inj (by omega) (by omega) year),
    Fin.ext (digits_inj (by omega) (by omega) month),
    Fin.ext (digits_inj (by omega) (by omega) day),
    Fin.ext (digits_inj (by omega) (by omega) hour),
    Fin.ext (digits_inj (by omega) (by omega) minute),
    Fin.ext (digits_inj (by omega) (by omega) last)⟩

theorem canonical_ne_empty (value : Timestamp) :
    value.canonical.isEmpty = false := by
  rw [canonical_eq, String.isEmpty_eq_false_iff]
  intro empty
  have none := congrArg String.length empty
  simp [length_clock] at none

theorem canonical_injective : Function.Injective canonical := by
  intro first second same
  rw [canonical_eq, canonical_eq, String.ofList_inj] at same
  obtain ⟨clock, later⟩ := List.append_inj same (by simp [length_clock])
  obtain ⟨micro, zone⟩ := fraction_inj (by omega) (by omega) head_zone
    head_zone later
  obtain ⟨year, month, day, hour, minute, second⟩ := clock_inj clock
  have micro' := Fin.ext micro
  have offset := zone_inj zone
  cases first
  cases second
  simp_all

end Injectivity

end Timestamp

end ReplayForge

import ReplayForge.Shared.Json
import Mathlib.Logic.Function.Basic
import Std.Data.String.ToNat

/-!
# A text for every JSON value

A writer close to the JSON encoder, except that a number ends with a space and
a real is written as a fraction.  No text is the beginning of another one, so
that different values have different texts.
-/

namespace ReplayForge.Json

def natText (value : Nat) : List Char :=
  value.repr.toList ++ [' ']

def intText : Int → List Char
  | .ofNat value => natText value
  | .negSucc value => '-' :: natText value

/-- The characters of a string up to its closing quote. -/
def escaped : List Char → List Char
  | [] => ['"']
  | char :: rest =>
      if char = '"' ∨ char = '\\' then '\\' :: char :: escaped rest
      else char :: escaped rest

mutual

def chars : Json → List Char
  | .null => ['n']
  | .bool true => ['t']
  | .bool false => ['f']
  | .int value => 'i' :: intText value
  | .real value => 'r' :: (intText value.num ++ natText value.den)
  | .str value => '"' :: escaped value.toList
  | .arr items => '[' :: charsAll items
  | .obj fields => '{' :: charsFields fields

def charsAll : List Json → List Char
  | [] => [']']
  | item :: rest => ',' :: (chars item ++ charsAll rest)

def charsFields : List (String × Json) → List Char
  | [] => ['}']
  | (name, json) :: rest =>
      ',' :: (escaped name.toList ++ (chars json ++ charsFields rest))

end

def text (json : Json) : String := String.ofList json.chars

/-- Two lists up to the first mark. -/
theorem split_at_mark {mark : Char} {first second : List Char}
    {rest rest' : List Char} (clean : mark ∉ first) (clean' : mark ∉ second)
    (same : first ++ mark :: rest = second ++ mark :: rest') :
    first = second ∧ rest = rest' := by
  induction first generalizing second with
  | nil =>
      cases second with
      | nil => simpa using same
      | cons char others =>
          have head : mark = char := (List.cons.inj same).1
          exact (clean' (head ▸ List.mem_cons_self)).elim
  | cons char others ih =>
      cases second with
      | nil =>
          have head : char = mark := (List.cons.inj same).1
          exact (clean (head ▸ List.mem_cons_self)).elim
      | cons char' others' =>
          obtain ⟨head, tail⟩ := List.cons.inj same
          have both := ih (fun member => clean (.tail _ member))
            (fun member => clean' (.tail _ member)) tail
          exact ⟨by rw [head, both.1], both.2⟩

theorem not_space_of_mem_repr {value : Nat} : ' ' ∉ value.repr.toList := by
  intro member
  rw [Nat.toList_repr] at member
  have digit := Nat.isDigit_of_mem_toDigits (by decide) (by decide) member
  exact absurd digit (by decide)

theorem natText_split {first second : Nat} {rest rest' : List Char}
    (same : natText first ++ rest = natText second ++ rest') :
    first = second ∧ rest = rest' := by
  simp only [natText, List.append_assoc, List.singleton_append] at same
  obtain ⟨digits, rests⟩ :=
    split_at_mark not_space_of_mem_repr not_space_of_mem_repr same
  exact ⟨Nat.repr_injective (String.toList_injective digits), rests⟩

/-- A number does not begin with a minus sign. -/
theorem natText_ne_minus {value : Nat} {rest rest' : List Char} :
    natText value ++ rest ≠ '-' :: rest' := by
  intro same
  cases digits : value.repr.toList with
  | nil =>
      rw [natText, digits] at same
      cases same
  | cons char others =>
      rw [natText, digits] at same
      have head : char = '-' := (List.cons.inj same).1
      have member : char ∈ value.repr.toList := by
        rw [digits]
        exact List.mem_cons_self
      rw [head, Nat.toList_repr] at member
      have digit := Nat.isDigit_of_mem_toDigits (by decide) (by decide) member
      exact absurd digit (by decide)

theorem intText_split {first second : Int} {rest rest' : List Char}
    (same : intText first ++ rest = intText second ++ rest') :
    first = second ∧ rest = rest' := by
  cases first with
  | ofNat value =>
      cases second with
      | ofNat value' =>
          obtain ⟨values, rests⟩ := natText_split same
          exact ⟨by rw [values], rests⟩
      | negSucc value' => exact (natText_ne_minus same).elim
  | negSucc value =>
      cases second with
      | ofNat value' => exact (natText_ne_minus same.symm).elim
      | negSucc value' =>
          obtain ⟨values, rests⟩ := natText_split (List.cons.inj same).2
          exact ⟨by rw [values], rests⟩

theorem escaped_split {first second : List Char} {rest rest' : List Char}
    (same : escaped first ++ rest = escaped second ++ rest') :
    first = second ∧ rest = rest' := by
  induction first generalizing second with
  | nil =>
      cases second with
      | nil => simpa [escaped] using same
      | cons char others =>
          simp only [escaped] at same
          split at same <;> grind
  | cons char others ih =>
      cases second with
      | nil =>
          simp only [escaped] at same
          split at same <;> grind
      | cons char' others' =>
          simp only [escaped] at same
          split at same <;> split at same <;> grind

mutual

/-- A text tells where it ends. -/
theorem chars_split : ∀ {first second : Json} {rest rest' : List Char},
    chars first ++ rest = chars second ++ rest' →
    first = second ∧ rest = rest'
  | .null, second, _, _, same => by
      cases second with
      | null => simpa [chars] using same
      | bool value => cases value <;> simp [chars] at same
      | _ => simp [chars] at same
  | .bool value, second, _, _, same => by
      cases second with
      | bool value' => cases value <;> cases value' <;> simp_all [chars]
      | _ => cases value <;> simp [chars] at same
  | .int value, second, _, _, same => by
      cases second with
      | int value' =>
          simp only [chars, List.cons_append] at same
          obtain ⟨values, rests⟩ := intText_split (List.cons.inj same).2
          exact ⟨by rw [values], rests⟩
      | bool value => cases value <;> simp [chars] at same
      | _ => simp [chars] at same
  | .real value, second, _, _, same => by
      cases second with
      | real value' =>
          simp only [chars, List.cons_append, List.append_assoc] at same
          obtain ⟨above, later⟩ := intText_split (List.cons.inj same).2
          obtain ⟨below, rests⟩ := natText_split later
          exact ⟨by rw [Rat.ext above below], rests⟩
      | bool value => cases value <;> simp [chars] at same
      | _ => simp [chars] at same
  | .str value, second, _, _, same => by
      cases second with
      | str value' =>
          simp only [chars, List.cons_append] at same
          obtain ⟨values, rests⟩ := escaped_split (List.cons.inj same).2
          exact ⟨by rw [String.toList_injective values], rests⟩
      | bool value => cases value <;> simp [chars] at same
      | _ => simp [chars] at same
  | .arr items, second, _, _, same => by
      cases second with
      | arr items' =>
          simp only [chars, List.cons_append] at same
          obtain ⟨values, rests⟩ := charsAll_split (List.cons.inj same).2
          exact ⟨by rw [values], rests⟩
      | bool value => cases value <;> simp [chars] at same
      | _ => simp [chars] at same
  | .obj fields, second, _, _, same => by
      cases second with
      | obj fields' =>
          simp only [chars, List.cons_append] at same
          obtain ⟨values, rests⟩ := charsFields_split (List.cons.inj same).2
          exact ⟨by rw [values], rests⟩
      | bool value => cases value <;> simp [chars] at same
      | _ => simp [chars] at same

theorem charsAll_split :
    ∀ {first second : List Json} {rest rest' : List Char},
    charsAll first ++ rest = charsAll second ++ rest' →
    first = second ∧ rest = rest'
  | [], second, _, _, same => by
      cases second with
      | nil => simpa [charsAll] using same
      | cons item' others' => simp [charsAll] at same
  | item :: others, second, _, _, same => by
      cases second with
      | nil => simp [charsAll] at same
      | cons item' others' =>
          simp only [charsAll, List.cons_append, List.append_assoc] at same
          obtain ⟨here, later⟩ := chars_split (List.cons.inj same).2
          obtain ⟨values, rests⟩ := charsAll_split later
          exact ⟨by rw [here, values], rests⟩

theorem charsFields_split :
    ∀ {first second : List (String × Json)} {rest rest' : List Char},
    charsFields first ++ rest = charsFields second ++ rest' →
    first = second ∧ rest = rest'
  | [], second, _, _, same => by
      cases second with
      | nil => simpa [charsFields] using same
      | cons entry' others' => simp [charsFields] at same
  | (name, json) :: others, second, _, _, same => by
      cases second with
      | nil => simp [charsFields] at same
      | cons entry' others' =>
          simp only [charsFields, List.cons_append, List.append_assoc] at same
          obtain ⟨names, later⟩ := escaped_split (List.cons.inj same).2
          obtain ⟨here, later⟩ := chars_split later
          obtain ⟨values, rests⟩ := charsFields_split later
          refine ⟨?_, rests⟩
          rw [String.toList_injective names, here, values]

end

theorem text_injective : Function.Injective text := by
  intro first second same
  have same' := String.ofList_injective same
  exact (chars_split (congrArg (· ++ []) same')).1

end ReplayForge.Json

import ReplayForge.Data.Dict
import Mathlib.Data.Rat.Defs

/-!
# JSON values

Numbers keep the distinction between integers and reals, which the contract
validator depends on.
-/

namespace ReplayForge

inductive Json where
  | null
  | bool (value : Bool)
  | int (value : Int)
  | real (value : Rat)
  | str (value : String)
  | arr (items : List Json)
  | obj (fields : List (String × Json))

namespace Json

mutual

private def same : (left right : Json) → Decidable (left = right)
  | .null, .null => isTrue rfl
  | .bool a, .bool b => decidable_of_iff (a = b) (by simp)
  | .int a, .int b => decidable_of_iff (a = b) (by simp)
  | .real a, .real b => decidable_of_iff (a = b) (by simp)
  | .str a, .str b => decidable_of_iff (a = b) (by simp)
  | .arr a, .arr b =>
      match sameItems a b with
      | isTrue equal => isTrue (by rw [equal])
      | isFalse different => isFalse (by simpa using different)
  | .obj a, .obj b =>
      match sameFields a b with
      | isTrue equal => isTrue (by rw [equal])
      | isFalse different => isFalse (by simpa using different)
  | .null, .bool _ | .null, .int _ | .null, .real _ | .null, .str _
  | .null, .arr _ | .null, .obj _ | .bool _, .null | .bool _, .int _
  | .bool _, .real _ | .bool _, .str _ | .bool _, .arr _ | .bool _, .obj _
  | .int _, .null | .int _, .bool _ | .int _, .real _ | .int _, .str _
  | .int _, .arr _ | .int _, .obj _ | .real _, .null | .real _, .bool _
  | .real _, .int _ | .real _, .str _ | .real _, .arr _ | .real _, .obj _
  | .str _, .null | .str _, .bool _ | .str _, .int _ | .str _, .real _
  | .str _, .arr _ | .str _, .obj _ | .arr _, .null | .arr _, .bool _
  | .arr _, .int _ | .arr _, .real _ | .arr _, .str _ | .arr _, .obj _
  | .obj _, .null | .obj _, .bool _ | .obj _, .int _ | .obj _, .real _
  | .obj _, .str _ | .obj _, .arr _ => isFalse (by simp)

private def sameItems : (left right : List Json) → Decidable (left = right)
  | [], [] => isTrue rfl
  | [], _ :: _ => isFalse (by simp)
  | _ :: _, [] => isFalse (by simp)
  | a :: as, b :: bs =>
      match same a b, sameItems as bs with
      | isTrue head, isTrue tail => isTrue (by rw [head, tail])
      | isFalse different, _ => isFalse (by simp [different])
      | _, isFalse different => isFalse (by simp [different])

private def sameFields :
    (left right : List (String × Json)) → Decidable (left = right)
  | [], [] => isTrue rfl
  | [], _ :: _ => isFalse (by simp)
  | _ :: _, [] => isFalse (by simp)
  | (k, a) :: as, (l, b) :: bs =>
      match decEq k l, same a b, sameFields as bs with
      | isTrue key, isTrue head, isTrue tail =>
          isTrue (by rw [key, head, tail])
      | isFalse different, _, _ => isFalse (by simp [different])
      | _, isFalse different, _ => isFalse (by simp [different])
      | _, _, isFalse different => isFalse (by simp [different])

end

instance : DecidableEq Json := same

def field? : Json → String → Option Json
  | .obj fields, key => fields.lookup key
  | _, _ => none

end Json

/-- A JSON object, as the invocation inputs are. -/
abbrev Fields := Dict Json

end ReplayForge

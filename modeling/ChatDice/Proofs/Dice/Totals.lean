import ChatDice.Dice.Outcome
import Mathlib.Algebra.BigOperators.Group.List.Basic

/-! # Totals are exact

    The total of an outcome is worked out in 64 bits, where a sum of faces could wrap and
    adding the modifier could be cut off.  Neither happens while the exact numbers fit,
    and the faces of fewer than 2⁴⁷ dice always do.

    - `exactSum`: the sum of faces as a natural number.
    - `Outcome.total_ofDice`: the total is that of the exact numbers in 64 bits.
    - `Outcome.Fits`: the exact numbers have 64 bits.
    - `Outcome.toInt_total_ofDice`: then the total is exact.
    - `Outcome.fits_of_length_lt`: so many dice fit.
-/

namespace ChatDice

/-! ## Sums of faces -/

/-- The sum of faces, however large it is. -/
def exactSum : List UInt16 → Nat
  | []         => 0
  | v :: faces => v.toNat + exactSum faces

@[simp] theorem exactSum_nil : exactSum [] = 0 := rfl

@[simp] theorem exactSum_cons (v : UInt16) (faces : List UInt16) :
    exactSum (v :: faces) = v.toNat + exactSum faces := rfl

/-- A face has 16 bits. -/
theorem exactSum_le (faces : List UInt16) : exactSum faces ≤ faces.length * 65535 := by
  induction faces with
  | nil => exact Nat.zero_le _
  | cons v faces ih =>
    have hv := v.toNat_lt
    rw [exactSum_cons, List.length_cons]
    omega

/-! ## Sums in 64 bits -/

/-- The sum in 64 bits is the exact one, less what has no room. -/
theorem foldl_add_faces (faces : List UInt16) (start : Int64) :
    faces.foldl (fun sum v => sum + Int64.ofNat v.toNat) start =
      start + Int64.ofNat (exactSum faces) := by
  induction faces generalizing start with
  | nil => exact (Int64.add_zero start).symm
  | cons v faces ih =>
    rw [List.foldl_cons, ih, exactSum_cons, Int64.ofNat_add, Int64.add_assoc]

theorem faceSum_eq (faces : List UInt16) : faceSum faces = Int64.ofNat (exactSum faces) := by
  rw [faceSum, foldl_add_faces, Int64.zero_add]

/-- A sum that is in range is not cut off. -/
theorem toInt_saturatingAdd {a b : Int64} (hlow : -2 ^ 63 ≤ a.toInt + b.toInt)
    (hhigh : a.toInt + b.toInt < 2 ^ 63) : (saturatingAdd a b).toInt = a.toInt + b.toInt := by
  have hmin : Int64.minValue.toInt = -2 ^ 63 := by decide
  have hmax : Int64.maxValue.toInt = 2 ^ 63 - 1 := by decide
  unfold saturatingAdd
  dsimp only
  rw [hmin, hmax, if_neg (by omega), if_neg (by omega)]
  exact Int64.toInt_ofInt_of_le hlow hhigh

namespace Outcome

/-! ## Outcomes -/

/-- The sum of the faces is a number of 64 bits, with the modifier and without. -/
def Fits (faces : List UInt16) (modifier : Int16) : Prop :=
  exactSum faces + max modifier.toInt 0 < 2 ^ 63

/-- Fewer than 2⁴⁷ faces of 16 bits fit, with room for any modifier. -/
theorem fits_of_length_lt {faces : List UInt16} (h : faces.length < 2 ^ 47) (modifier : Int16) :
    Fits faces modifier := by
  have hsum := exactSum_le faces
  have hmodifier := modifier.toInt_lt
  unfold Fits
  omega

/-- The total of dice is the exact sum of the faces that count and the modifier, as far
as 64 bits go. -/
theorem total_ofDice (dice : List DieResult) (modifier : Int16) :
    (ofDice dice modifier).total =
      saturatingAdd (Int64.ofNat (exactSum (ofDice dice modifier).kept)) modifier.toInt64 := by
  rw [← faceSum_eq]
  rfl

theorem toInt_total_ofDice {dice : List DieResult} {modifier : Int16}
    (h : Fits (ofDice dice modifier).kept modifier) :
    (ofDice dice modifier).total.toInt =
      exactSum (ofDice dice modifier).kept + modifier.toInt := by
  have hmodifier := modifier.le_toInt
  have hwide := modifier.toInt_toInt64
  unfold Fits at h
  have hroom : exactSum (ofDice dice modifier).kept < 2 ^ 63 := by omega
  have hsum := Int64.toInt_ofNat_of_lt hroom
  rw [total_ofDice, toInt_saturatingAdd (by omega) (by omega), hsum, hwide]

@[simp] theorem kept_ofFaces (faces : List UInt16) (modifier : Int16) :
    (ofFaces faces modifier).kept = faces := by
  induction faces with
  | nil => rfl
  | cons v faces ih =>
    show v :: (ofFaces faces modifier).kept = _
    rw [ih]

/-- If all dice count, the total is the sum of all faces and the modifier. -/
theorem total_ofFaces (faces : List UInt16) (modifier : Int16) :
    (ofFaces faces modifier).total =
      saturatingAdd (Int64.ofNat (exactSum faces)) modifier.toInt64 := by
  have htotal : (ofFaces faces modifier).total =
      saturatingAdd (Int64.ofNat (exactSum (ofFaces faces modifier).kept)) modifier.toInt64 :=
    total_ofDice _ _
  rw [htotal, kept_ofFaces]

theorem toInt_total_ofFaces {faces : List UInt16} {modifier : Int16} (h : Fits faces modifier) :
    (ofFaces faces modifier).total.toInt = exactSum faces + modifier.toInt := by
  have hkept := kept_ofFaces faces modifier
  have htotal : (ofFaces faces modifier).total.toInt =
      exactSum (ofFaces faces modifier).kept + modifier.toInt :=
    toInt_total_ofDice (hkept.symm ▸ h)
  rw [htotal, hkept]

end Outcome

end ChatDice

import Polyad.FloatOrder
import Polyad.Proofs.Order.PartialLaws
/-!
Floating-point numbers keep the laws of things that may be incomparable. Each
number has a place in a total order, except one that is not a number.
-/

namespace Polyad

open Float.Model (UnpackedFloat)

/-- The place of a number: its class, then its exponent and its digits, both
    turned around below zero. -/
def floatPlace : UnpackedFloat → Option (Int × Int × Int)
  | .notANumber => none
  | .infinity .negative => some (-2, 0, 0)
  | .finite .negative mantissa exponent _ => some (-1, -exponent, -mantissa)
  | .zero _ => some (0, 0, 0)
  | .finite .positive mantissa exponent _ => some (1, exponent, mantissa)
  | .infinity .positive => some (2, 0, 0)

def placeOrder : Int × Int × Int → Int × Int × Int → Ordering :=
  compareLex (compareOn Prod.fst) <| compareLex (compareOn fun p => p.2.1) (compareOn fun p => p.2.2)

instance : Std.TransCmp placeOrder :=
  inferInstanceAs (Std.TransCmp (compareLex _ _))

theorem compare_neg (a b : Int) : compare (-a) (-b) = (compare a b).swap := by
  rw [Int.compare_swap, Int.compare_eq_ite_lt, Int.compare_eq_ite_lt]
  simp only [Int.neg_lt_neg_iff]

theorem compare_natCast (a b : Nat) : compare (a : Int) b = compare a b := by
  rw [Int.compare_eq_ite_lt, Nat.compare_eq_ite_lt]
  simp only [Int.ofNat_lt]

theorem unpacked_compare_eq (x y : UnpackedFloat) :
    x.compare y = (floatPlace x).bind fun p => (floatPlace y).map (placeOrder p) := by
  rcases x with ⟨_ | _⟩ | _ | _ | ⟨_ | _, m, d, _⟩ <;>
    rcases y with ⟨_ | _⟩ | _ | _ | ⟨_ | _, n, e, _⟩ <;> try rfl
  -- Only two finite numbers of one sign have their digits compared.
  case finite.negative.finite.negative =>
    change some (((compare d e).then (compare m n)).swap) =
      some ((compare (-d) (-e)).then (compare (-(m : Int)) (-(n : Int))))
    rw [compare_neg, compare_neg, compare_natCast, Ordering.swap_then]
  case finite.positive.finite.positive =>
    change some ((compare d e).then (compare m n)) =
      some ((compare d e).then (compare (m : Int) (n : Int)))
    rw [compare_natCast]

theorem unpacked_partialLaws : PartialLaws UnpackedFloat.beq UnpackedFloat.compare :=
  .of_place (fun _ _ => beq_iff_eq) unpacked_compare_eq

theorem float_lt_iff (a b : Float) :
    a < b ↔ a.toModel.unpack.compare b.toModel.unpack = some .lt := by
  change decide (a.toModel < b.toModel) = true ↔ _
  rw [decide_eq_true_iff]
  exact beq_iff_eq

theorem float_beq_iff (a b : Float) :
    (a == b) = true ↔ a.toModel.unpack.compare b.toModel.unpack = some .eq := by
  change (a.toModel.unpack.compare b.toModel.unpack == some .eq) = true ↔ _
  exact beq_iff_eq

/-- The three questions that a comparison asks have one answer among them. -/
theorem floatCompare_eq (a b : Float) :
    floatCompare a b = a.toModel.unpack.compare b.toModel.unpack := by
  have hswap := unpacked_partialLaws.swap a.toModel.unpack b.toModel.unpack
  simp only [floatCompare, GT.gt, float_lt_iff, float_beq_iff, hswap]
  cases a.toModel.unpack.compare b.toModel.unpack with
  | none => rfl
  | some answer => cases answer <;> rfl

theorem float_partialLaws : PartialLaws floatEqual floatCompare :=
  .of_place (fun a b => by rw [floatEqual, float_beq_iff, floatCompare_eq])
    fun a b => by rw [floatCompare_eq, unpacked_compare_eq]

end Polyad

import HttpCall.Text.Properties
import HttpCall.Text.Decomposition

/-!
# Normalization Form C

The canonical composition of a text: decompose every point fully, put each run of
combining marks in the order of their combining classes (a stable sort, so marks of one
class keep their order), then compose from left to right. A mark composes with the last
starter unless a character between them blocks it: one of class zero, or one whose
class is not below the mark's.
-/

namespace HttpCall.Nfc

/-- A run of combining marks sorted by class, marks of equal class in their order. -/
def sortRun (run : List Nat) : List Nat :=
  run.mergeSort (fun a b => decide (CombiningClass.of a ≤ CombiningClass.of b))

/-- Canonical ordering; `run` holds the marks since the last starter, reversed. -/
def reorderFrom (run : List Nat) : List Nat → List Nat
  | [] => sortRun run.reverse
  | c :: cs =>
    if CombiningClass.of c = 0 then sortRun run.reverse ++ c :: reorderFrom [] cs
    else reorderFrom (c :: run) cs

/-- The decomposed, canonically ordered form of a text. -/
def decompose (cps : List Nat) : List Nat :=
  reorderFrom [] (cps.flatMap Decomposition.full)

/-- Canonical composition. `out` is the finished output reversed, `starter` the last
starter, which may still absorb marks, and `marks` the characters after it that did not
compose, reversed. -/
def composeFrom (out : List Nat) (starter : Option Nat) (marks : List Nat) :
    List Nat → List Nat
  | [] => (marks ++ starter.toList ++ out).reverse
  | c :: cs =>
    let cc := CombiningClass.of c
    let blocked := match marks with
      | [] => false
      | m :: _ => !decide (CombiningClass.of m < cc)
    let joined := match starter with
      | some s => if blocked then none else Decomposition.compose? s c
      | none => none
    match joined with
    | some x => composeFrom out (some x) marks cs
    | none =>
      if cc = 0 then composeFrom (marks ++ starter.toList ++ out) (some c) [] cs
      else composeFrom out starter (c :: marks) cs

/-- The Normalization Form C of a text given by its code points. -/
def normalize (cps : List Nat) : List Nat :=
  composeFrom [] none [] (decompose cps)

/-- Is a text in Normalization Form C? -/
def isNormal (cps : List Nat) : Bool :=
  normalize cps == cps

end HttpCall.Nfc

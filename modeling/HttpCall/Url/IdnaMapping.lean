import HttpCall.Text.RangeTable
import HttpCall.Url.IdnaMappingData

/-!
# The IDNA mapping

Each code point has a status in the IDNA compatibility processing: it is kept (valid,
or a deviation, which nontransitional processing keeps), replaced by a sequence of
points (mapped), dropped (ignored), or refused (disallowed). Every ASCII point is valid
except the capital letters, which map to small ones.
-/

namespace HttpCall

/-- What the IDNA mapping does with a code point. -/
inductive IdnaStatus where
  | valid
  | mapped (points : List Nat)
  | deviation
  | ignored
  | disallowed
  deriving DecidableEq, Repr, Inhabited

namespace IdnaMapping

/-- The status a row's code and mapping denote. -/
def statusOf? : String → List String → Option IdnaStatus
  | "V", [] => some .valid
  | "D", [] => some .deviation
  | "D", [_] => some .deviation
  | "I", [] => some .ignored
  | "X", [] => some .disallowed
  | "M", [m] => (RangeTable.readPoints? m).map .mapped
  | _, _ => none

/-- The rows of the table, keyed by their first code point. -/
def rows : Array (Nat × IdnaStatus) :=
  ((RangeTable.fieldsOf rowText).filterMap fun
    | first :: code :: more => do pure (← RangeTable.readHex? first, ← statusOf? code more)
    | _ => none).toArray

/-- The status of a code point. -/
def status (cp : Nat) : IdnaStatus :=
  match Keyed.floor? rows cp with
  | some (_, s) => s
  | none => .disallowed

end IdnaMapping

end HttpCall

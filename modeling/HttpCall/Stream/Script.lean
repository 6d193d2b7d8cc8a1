import HttpCall.Stream.Source

/-!
# Scripted readers

A scripted reader hands out a fixed list of results and then reaches the end of its
stream: a result is some bytes, never none, or a failure. A read takes bytes up to the
buffer's length and keeps the rest of them for the next read; a failure goes out on one
read and is gone. A read into an empty buffer takes no bytes, and at the end every read
serves none.

Every read that serves bytes or fails lowers `workLeft`, the bytes left plus the failures
left, so a reader that reads to the end with the measure as its bound reaches the end.
-/

namespace HttpCall

/-- One result of a script: bytes, given by the first and the rest, or a failure. -/
inductive ScriptStep where
  | bytes (first : UInt8) (rest : List UInt8)
  | failure (error : IoError)
  deriving DecidableEq, Repr, Inhabited

namespace ScriptStep

/-- The bytes of a result; a failure has none. -/
def data : ScriptStep → List UInt8
  | bytes first rest => first :: rest
  | failure _ => []

/-- The bytes of a result, or one for a failure. -/
def size : ScriptStep → Nat
  | bytes _ rest => rest.length + 1
  | failure _ => 1

end ScriptStep

/-- A reader over a script of results. -/
structure ByteScript where
  steps : List ScriptStep
  deriving DecidableEq, Repr, Inhabited

namespace ByteScript

/-- The results with the bytes a read did not take put back in front. -/
def putBack : List UInt8 → List ScriptStep → List ScriptStep
  | [], steps => steps
  | next :: after, steps => .bytes next after :: steps

/-- One read into a buffer of `len` bytes. -/
def read (s : ByteScript) (len : Nat) : Except IoError (List UInt8) × ByteScript :=
  match s.steps, len with
  | [], _ => (.ok [], s)
  | .failure e :: rest, _ => (.error e, ⟨rest⟩)
  | .bytes _ _ :: _, 0 => (.ok [], s)
  | .bytes first more :: rest, n + 1 =>
    (.ok (first :: more.take n), ⟨putBack (more.drop n) rest⟩)

/-- The bytes left plus the failures left. -/
def measure : List ScriptStep → Nat
  | [] => 0
  | step :: rest => step.size + measure rest

/-- The bytes the script still holds, in order. -/
def data (s : ByteScript) : List UInt8 :=
  s.steps.flatMap ScriptStep.data

instance : ByteReader ByteScript := ⟨read, fun s => measure s.steps⟩

end ByteScript

end HttpCall

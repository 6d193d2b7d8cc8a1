import HttpCall.Error

/-!
# Byte sources

A byte source serves a fixed sequence of bytes through reads of bounded size. It may
serve at most `chunk` bytes a read, and it may have a failure scheduled at a position:
reads stop at that position, the next `count` reads fail with the scheduled kind and
text, and after them the rest of the bytes is served as usual.

`readToEnd` reads until a read returns no bytes or fails, as a reader that collects a
whole stream does: a read that fails as interrupted is tried again, and any other
failure ends the reading with the bytes read so far.

A response body reads through the interface `ByteReader`, of which a byte source is one
instance.
-/

namespace HttpCall

/-- What a response body reads from, as the standard reading interface has it: one read
into a buffer of `len` bytes serves bytes or fails, and the reader goes on from where the
read left it. `workLeft` measures what is left to read: a reader that reads to the end
uses it for its buffer and bounds its reads by it. -/
class ByteReader (ρ : Type) where
  read : ρ → Nat → Except IoError (List UInt8) × ρ
  workLeft : ρ → Nat

/-- A failure scheduled at a position of a source. -/
structure ScheduledFailure where
  /-- The position reads stop at, clamped to the end of the data. -/
  after : Nat
  /-- What each failing read reports. -/
  error : IoError
  /-- The failing reads still to come. -/
  count : Nat
  deriving DecidableEq, Repr, Inhabited

/-- A finite byte stream read from its start. -/
structure ByteSource where
  data : List UInt8
  /-- The bytes served so far. -/
  pos : Nat := 0
  /-- The most bytes one read serves, if bounded. -/
  chunk : Option Nat := none
  failure : Option ScheduledFailure := none
  deriving DecidableEq, Repr, Inhabited

namespace ByteSource

/-- A source of bytes with no bound and no failure. -/
def ofBytes (data : List UInt8) : ByteSource := { data }

/-- The failure still due, and the position it is due at. -/
def pending (s : ByteSource) : Option (Nat × ScheduledFailure) :=
  match s.failure with
  | some f => if f.count = 0 then none else some (min f.after s.data.length, f)
  | none => none

/-- The position the next reads may reach: the pending failure's, or the end. -/
def limit (s : ByteSource) : Nat :=
  match s.pending with
  | some (due, _) => due
  | none => s.data.length

/-- One read into a buffer of `len` bytes: the bytes served, or the failure due here. -/
def read (s : ByteSource) (len : Nat) : Except IoError (List UInt8) × ByteSource :=
  match s.pending with
  | some (due, f) =>
    if s.pos = due then (.error f.error, { s with failure := some { f with count := f.count - 1 } })
    else serve
  | none => serve
where
  /-- Serve up to `len` bytes, no more than a chunk, and not past the limit. -/
  serve : Except IoError (List UInt8) × ByteSource :=
    let n := min (min len (s.chunk.getD len)) (s.limit - s.pos)
    (.ok ((s.data.drop s.pos).take n), { s with pos := s.pos + n })

/-- The bytes left to serve and the failures still due: every read that does not end
the reading lowers it. -/
def workLeft (s : ByteSource) : Nat :=
  (s.data.length - s.pos) + (match s.failure with | some f => f.count | none => 0)

/-- Read to the end, with `acc` the bytes so far reversed; `fuel` bounds the reads. -/
def readToEndFrom : Nat → ByteSource → List UInt8 → (List UInt8 × Option IoError) × ByteSource
  | 0, s, acc => ((acc.reverse, none), s)
  | fuel + 1, s, acc =>
    match s.read (s.data.length + 1) with
    | (.ok [], s') => ((acc.reverse, none), s')
    | (.ok bytes, s') => readToEndFrom fuel s' (bytes.reverse ++ acc)
    | (.error e, s') =>
      if e.kind = .interrupted then readToEndFrom fuel s' acc
      else ((acc.reverse, some e), s')

/-- Everything up to the end of the source, or up to the first failure that is not an
interruption, with that failure. -/
def readToEnd (s : ByteSource) : (List UInt8 × Option IoError) × ByteSource :=
  readToEndFrom (s.workLeft + 1) s []

instance : ByteReader ByteSource := ⟨ByteSource.read, ByteSource.workLeft⟩

end ByteSource

end HttpCall

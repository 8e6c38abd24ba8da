import BenchSweep.Report.Record
import BenchSweep.Text.Utf8

/-! # Writing records to a stream

    Records go to a stream of bytes that may have room for a limited number of
    them.  A write that does not fit is taken in part and then fails; what has
    been taken stays, and every later write fails at once. -/

namespace BenchSweep

/-- Why a record could not be published. -/
inductive ReportFault where
  | write (reason : String)
  | serialize (reason : String)
deriving DecidableEq, Repr

/-- The wording of a reporting fault. -/
def ReportFault.message : ReportFault → String
  | .write reason     => "Failed to write results: " ++ reason
  | .serialize reason => "Failed to serialize result: " ++ reason

/-- The bytes of a record. -/
def Record.bytes (format : Format) (r : Record) : List UInt8 :=
  Text.encodeUtf8 (r.body format) ++ Text.encodeUtf8 format.ending

/-- The bytes of some records, one after the other. -/
def Record.bytesOf (format : Format) (rs : List Record) : List UInt8 :=
  rs.flatMap (Record.bytes format)

/-- A stream of bytes: what it has taken and how much more it takes, if that is
    limited. -/
structure Stream where
  taken : List UInt8
  room? : Option Nat
deriving DecidableEq

/-- The fault of a record whose main part could not be written: in JSON it is the
    object that could not be made, in text a write that failed. -/
def Format.bodyFault (format : Format) (reason : String) : ReportFault :=
  match format with
  | .text => .write reason
  | .json => .serialize reason

namespace Stream

/-- An empty stream with room for `room?` bytes. -/
def empty (room? : Option Nat) : Stream := ⟨[], room?⟩

/-- Writes some bytes as far as there is room, and says whether there was. -/
def write (s : Stream) (bytes : List UInt8) : Bool × Stream :=
  match s.room? with
  | none      => (true, { s with taken := s.taken ++ bytes })
  | some room =>
      (decide (bytes.length ≤ room),
        ⟨s.taken ++ bytes.take room, some (room - bytes.length)⟩)

/-- Writes pieces one after the other, up to the first that does not fit. -/
def writeEach (s : Stream) : List (List UInt8) → Bool × Stream
  | []              => (true, s)
  | piece :: pieces =>
      let (fits, s) := s.write piece
      if fits then s.writeEach pieces else (false, s)

/-- What a full stream answers. -/
def fullReason : String := "sink full"

/-- Publishes one record. -/
def publish (s : Stream) (format : Format) (r : Record) : Except ReportFault Unit × Stream :=
  let (fits, s) := s.write (Text.encodeUtf8 (r.body format))
  if fits then
    let (fits, s) := s.write (Text.encodeUtf8 format.ending)
    (if fits then .ok () else .error (.write fullReason), s)
  else (.error (format.bodyFault fullReason), s)

/-- Publishes records one after the other, whether or not there was room for those
    before. -/
def publishAll (s : Stream) (format : Format) :
    List Record → List (Except ReportFault Unit) × Stream
  | []      => ([], s)
  | r :: rs =>
      let (answer, s) := s.publish format r
      let (answers, s) := s.publishAll format rs
      (answer :: answers, s)

end Stream

end BenchSweep

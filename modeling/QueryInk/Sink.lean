import QueryInk.Failure

namespace QueryInk

inductive Medium where
  | endless
  | bounded (room : Nat)
  /-- Behind a line buffer, which may hold bytes that are pending. -/
  | fullDevice (pending : Bool)
  deriving DecidableEq, Repr

structure Sink where
  written : Array UInt8
  medium : Medium
  /-- Why a flush will fail, if it will. -/
  flushFault : Option IoFault
  deriving DecidableEq, Repr

namespace Sink

def endless : Sink := ⟨#[], .endless, none⟩

def bounded (room : Nat) : Sink := ⟨#[], .bounded room, none⟩

def fullDevice : Sink := ⟨#[], .fullDevice false, none⟩

def lineFeed : UInt8 := 10

/-- Writes bytes. What has been accepted stays accepted when the write fails. -/
def write (sink : Sink) (bytes : Bytes) : Except IoFault Unit × Sink :=
  match sink.medium with
  | .endless => (.ok (), { sink with written := sink.written ++ bytes })
  | .bounded room =>
    let left := { sink with
      written := sink.written ++ bytes.take room, medium := .bounded (room - bytes.length) }
    (if bytes.length ≤ room then .ok () else .error .sinkFull, left)
  | .fullDevice pending =>
    if bytes.contains lineFeed then (.error (.os .noSpace), sink)
    else (.ok (), { sink with medium := .fullDevice (pending || !bytes.isEmpty) })

def flush (sink : Sink) : Except IoFault Unit :=
  match sink.flushFault, sink.medium with
  | some fault, _ => .error fault
  | none, .fullDevice true => .error (.os .noSpace)
  | none, _ => .ok ()

end Sink

end QueryInk

import CaretReport.Host.Exception

/-!
# Streams

A stream takes texts one write at a time. It may be closed, and it may fail from some write on for
good; a failed write adds nothing, but it counts.
-/

namespace CaretReport

/-- What a stream answers when asked whether it is a terminal. -/
inductive Terminal where
  | yes
  | no
  /-- The stream cannot be asked. -/
  | unknown
  /-- Asking raises an exception. -/
  | trouble (e : Exception)
  deriving DecidableEq

structure Stream where
  terminal : Terminal := .no
  /-- The first write that fails, counted from one. -/
  failsAt : Option Nat := none
  fault : Exception := .of .os "boom"
  closed : Bool := false
  attempts : Nat := 0
  written : List Text := []
  deriving DecidableEq

namespace Stream

def closedFault : Exception := .of .value "I/O operation on closed file"

def content (s : Stream) : Text := s.written.flatten

/-- Why the next write fails, if it does. -/
def refusal? (s : Stream) : Option Exception :=
  if s.closed then some closedFault
  else match s.failsAt with
    | some n => if n ≤ s.attempts + 1 then some s.fault else none
    | none => none

def write (s : Stream) (t : Text) : Except Exception Unit × Stream :=
  let tried := { s with attempts := s.attempts + 1 }
  match s.refusal? with
  | some f => (.error f, tried)
  | none => (.ok (), { tried with written := s.written ++ [t] })

/-- Writes texts in order, up to the first failure. -/
def writeAll (s : Stream) : List Text → Except Exception Unit × Stream
  | [] => (.ok (), s)
  | t :: ts =>
    match s.write t with
    | (.error f, s) => (.error f, s)
    | (.ok (), s) => s.writeAll ts

def close (s : Stream) : Stream := { s with closed := true }

/-- Whether the stream is a terminal. Trouble of its own comes before that of being closed. -/
def isTerminal (s : Stream) : Except Exception Bool :=
  match s.terminal with
  | .trouble e => .error e
  | .unknown => .ok false
  | .yes => if s.closed then .error closedFault else .ok true
  | .no => if s.closed then .error closedFault else .ok false

end Stream

end CaretReport

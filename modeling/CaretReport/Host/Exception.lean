import CaretReport.Text.Basic

/-!
# Exceptions

An exception has a class and a text. The classes that the program raises and catches are built in.
The classes of other people's exceptions are open: all that is known of one is its name and the
built-in classes that it derives from.
-/

namespace CaretReport

/-- The built-in classes of exceptions that matter to the program. -/
inductive ErrorKind where
  | type
  | value
  | unicodeEncode
  | unicodeDecode
  | overflow
  | memory
  | index
  | key
  | frozenInstance
  | runtime
  | recursion
  | os
  | brokenPipe
  | fileNotFound
  | isDirectory
  deriving DecidableEq

namespace ErrorKind

def name : ErrorKind → Text
  | .type => "TypeError"
  | .value => "ValueError"
  | .unicodeEncode => "UnicodeEncodeError"
  | .unicodeDecode => "UnicodeDecodeError"
  | .overflow => "OverflowError"
  | .memory => "MemoryError"
  | .index => "IndexError"
  | .key => "KeyError"
  | .frozenInstance => "FrozenInstanceError"
  | .runtime => "RuntimeError"
  | .recursion => "RecursionError"
  | .os => "OSError"
  | .brokenPipe => "BrokenPipeError"
  | .fileNotFound => "FileNotFoundError"
  | .isDirectory => "IsADirectoryError"

/-- Which of these classes a class derives from, if it derives from one. -/
def parent? : ErrorKind → Option ErrorKind
  | .unicodeEncode | .unicodeDecode => some .value
  | .recursion => some .runtime
  | .brokenPipe | .fileNotFound | .isDirectory => some .os
  | _ => none

/-- Whether a class is another one or derives from it. -/
def isA (k base : ErrorKind) : Bool := k = base || k.parent? = some base

end ErrorKind

inductive ErrorClass where
  | builtin (k : ErrorKind)
  /-- A class of somebody else, with the built-in classes among its ancestors. -/
  | foreign (name : Text) (ancestors : List ErrorKind)
  deriving DecidableEq

namespace ErrorClass

def name : ErrorClass → Text
  | builtin k => k.name
  | foreign name _ => name

def isA (c : ErrorClass) (base : ErrorKind) : Bool :=
  match c with
  | builtin k => k.isA base
  | foreign _ ancestors => ancestors.any fun k => k.isA base

end ErrorClass

structure Exception where
  cls : ErrorClass
  message : Text
  deriving DecidableEq

namespace Exception

def of (k : ErrorKind) (message : Text) : Exception := ⟨.builtin k, message⟩

def isA (e : Exception) (base : ErrorKind) : Bool := e.cls.isA base

/-- Whether reporting has to live with an exception; all others are passed on. -/
def isTolerated (e : Exception) : Bool := e.isA .os || e.isA .value

end Exception

end CaretReport

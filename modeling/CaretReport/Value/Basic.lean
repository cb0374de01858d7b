import CaretReport.Number.Binary64
import CaretReport.Text.Quoted

/-!
# Values

The values that positions and message templates are given, and how they are written. A value of a
class that is not known here is what it answers when it is asked: how it is written and shown, and
which numbers it stands for. Any of these questions can be answered with an exception. Values can be
integers, or texts, of a class of their own; such an integer counts in a position as any other of
its value.

Not every value can be written: an integer can have too many digits, and values can lie too deep in
others.
-/

namespace CaretReport

/-- What a value of a class that is not known here answers. -/
structure Object where
  kind : Text
  /-- The integer that it is, if its class derives from the integers. -/
  integer? : Option Int := none
  /-- The text that it is, if its class derives from the texts. -/
  text? : Option Text := none
  literal : Except Exception Text
  shown : Except Exception Text
  /-- The number it is converted to if a whole number is asked for. -/
  whole : Except Exception Int := .error (.of .type "")
  /-- The integer that it can take the place of. -/
  index : Except Exception Int := .error (.of .type "")
  real : Except Exception Binary64 := .error (.of .type ("must be real number, not " ++ kind))

/-- A value of any kind. The entries of a dictionary keep their order. -/
inductive Value where
  | none
  | bool (b : Bool)
  | int (i : Int)
  | real (x : Binary64)
  | text (t : Text)
  | bytes (b : Bytes)
  | list (items : List Value)
  | tuple (items : List Value)
  | dict (entries : List (Value × Value))
  | object (o : Object)

def Exception.tooDeep : Exception :=
  .of .recursion "maximum recursion depth exceeded while getting the repr of an object"

namespace Value

def kind : Value → Text
  | .none => "NoneType"
  | .bool _ => "bool"
  | .int _ => "int"
  | .real _ => "float"
  | .text _ => "str"
  | .bytes _ => "bytes"
  | .list _ => "list"
  | .tuple _ => "tuple"
  | .dict _ => "dict"
  | .object o => o.kind

mutual

/-- A value as it is written, if no value lies deeper in others than `depth` says. -/
def literalWithin (m : Machine) (depth : Nat) : Value → Except Exception Text
  | .none => .ok "None"
  | .bool b => .ok (if b then "True" else "False")
  | .int i => m.decimalInt i
  | .real x => .ok x.literal
  | .text t => .ok t.quoted
  | .bytes b => .ok b.quoted
  | .list items => do
    let inner ← literalsWithin m depth items
    pure ("[" ++ Text.joinWith ", " inner ++ "]")
  | .tuple items => do
    let inner ← literalsWithin m depth items
    pure ("(" ++ Text.joinWith ", " inner ++ (if items.length = 1 then "," else "") ++ ")")
  | .dict entries => do
    let inner ← entryLiteralsWithin m depth entries
    pure ("\x7b" ++ Text.joinWith ", " inner ++ "\x7d")
  | .object o => o.literal

def literalsWithin (m : Machine) (depth : Nat) : List Value → Except Exception (List Text)
  | [] => .ok []
  | v :: vs =>
    match depth with
    | 0 => .error .tooDeep
    | inside + 1 => do
      let t ← literalWithin m inside v
      let ts ← literalsWithin m (inside + 1) vs
      pure (t :: ts)

def entryLiteralsWithin (m : Machine) (depth : Nat) :
    List (Value × Value) → Except Exception (List Text)
  | [] => .ok []
  | (k, v) :: es =>
    match depth with
    | 0 => .error .tooDeep
    | inside + 1 => do
      let key ← literalWithin m inside k
      let value ← literalWithin m inside v
      let ts ← entryLiteralsWithin m (inside + 1) es
      pure ((key ++ ": " ++ value) :: ts)

end

def literal (m : Machine) (v : Value) : Except Exception Text := v.literalWithin m m.depth

/-- A value as it is shown: a text as it is, any other known value as it is written. -/
def toText (m : Machine) : Value → Except Exception Text
  | .text t => .ok t
  | .object o => o.shown
  | v => v.literal m

def text? : Value → Option Text
  | .text t => some t
  | .object o => o.text?
  | _ => Option.none

/-- The integer that a value stands for in arithmetic: truth values count as one and zero. -/
def integer? : Value → Option Int
  | .bool b => some (if b then 1 else 0)
  | .int i => some i
  | .object o => o.integer?
  | _ => Option.none

end Value

end CaretReport

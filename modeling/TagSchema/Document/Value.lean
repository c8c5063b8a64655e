import TagSchema.Number.Binary64

/-!
# Document values

The values that a definition document is made of, and the three ways in which a document can be at
fault.
-/

namespace TagSchema
namespace Document

/-- Why a document is refused. -/
inductive Fault where
  | endOfText
  | grammar
  | shape
deriving DecidableEq, Repr

/-- The word for a fault. -/
def Fault.category : Fault → String
  | endOfText => "eof"
  | grammar => "syntax"
  | shape => "data"

/-- A value of a document. Whole numbers that fit 64 bits are kept apart from real numbers;
`negative n` is the number below zero with magnitude `n`. -/
inductive Value where
  | null
  | bool (b : Bool)
  | natural (n : Nat)
  | negative (n : Nat)
  | real (x : Binary64)
  | text (s : String)
  | list (items : List Value)
  | object (members : List (String × Value))

namespace Value

/-- The text of a text value. -/
def text? : Value → Option String
  | text s => some s
  | _ => none

/-- The truth value of a Boolean. -/
def bool? : Value → Option Bool
  | bool b => some b
  | _ => none

/-- A whole number below a bound. -/
def naturalBelow? (bound : Nat) : Value → Option Nat
  | natural n => if n < bound then some n else none
  | _ => none

/-- Any number, as a double-precision number. -/
def real? : Value → Option Binary64
  | natural n => some (Binary64.ofNat n)
  | negative n => some (Binary64.ofNat n).neg
  | real x => some x
  | _ => none

/-- The items of a list, each read in the same way. -/
def listOf? {α : Type} (read : Value → Option α) : Value → Option (List α)
  | list items => items.mapM read
  | _ => none

end Value
end Document
end TagSchema

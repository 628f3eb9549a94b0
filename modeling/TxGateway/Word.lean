namespace TxGateway.Word

/-! # Words

The integers that sixty-four bits can hold, with a sign and without one. Texts spell integers of any
size, and records hold words.
-/

/-- The least number that a word without a sign cannot hold. -/
def bound : Nat := 0x10000000000000000

/-- The least number that a word with a sign cannot hold. -/
def signedBound : Nat := 0x8000000000000000

/-- An integer that a word without a sign can hold. -/
def isUnsigned (n : Int) : Bool := 0 ≤ n && n < bound

/-- An integer that a word with a sign can hold. -/
def isSigned (n : Int) : Bool := -signedBound ≤ n && n < signedBound

/-- An integer that some word can hold. -/
def isEither (n : Int) : Bool := isUnsigned n || isSigned n

theorem bound_eq_size : bound = UInt64.size := rfl

end TxGateway.Word

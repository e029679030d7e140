import DocumentDb.Text.Basic

/-!
# Random identifiers

A `Uuid` is 128 random bits. It is written in hexadecimal, with hyphens as an id and without them as
the token of a revision. The operations of the database take the random bits that they need as an
argument.
-/

namespace DocumentDb

/-- A random identifier. -/
structure Uuid where
  bits : BitVec 128
deriving DecidableEq

namespace Uuid

/-- The 32 hexadecimal digits. -/
def digits (uuid : Uuid) : List Char := Text.hex uuid.bits.toNat 32

/-- The digits without hyphens. -/
def simple (uuid : Uuid) : String := String.ofList uuid.digits

/-- The digits in groups of 8, 4, 4, 4 and 12. -/
def hyphenated (uuid : Uuid) : String :=
  let part (start length : Nat) : String := String.ofList ((uuid.digits.drop start).take length)
  "-".intercalate [part 0 8, part 8 4, part 12 4, part 16 4, part 20 12]

theorem length_digits (uuid : Uuid) : uuid.digits.length = 32 := Text.length_hex _ _

end Uuid

/-- The random bits for one write: an id, and the token of a revision. -/
structure Stamp where
  id : Uuid
  token : Uuid

end DocumentDb

import Reckoner.Number

/-!
# Widening

Every machine integer of at most 64 signed bits, and every float of at most 64,
is a number.  No conversion here loses anything.
-/

namespace Reckoner.Number

/-- A signed integer of 8 bits. -/
def ofInt8 (n : Int8) : Number :=
  integer n.toInt64

/-- A signed integer of 16 bits. -/
def ofInt16 (n : Int16) : Number :=
  integer n.toInt64

/-- A signed integer of 32 bits. -/
def ofInt32 (n : Int32) : Number :=
  integer n.toInt64

/-- An unsigned integer of 8 bits. -/
def ofUInt8 (n : UInt8) : Number :=
  integer (Int64.ofNat n.toNat)

/-- An unsigned integer of 16 bits. -/
def ofUInt16 (n : UInt16) : Number :=
  integer (Int64.ofNat n.toNat)

/-- An unsigned integer of 32 bits. -/
def ofUInt32 (n : UInt32) : Number :=
  integer (Int64.ofNat n.toNat)

/-- A float of 32 bits, as the double of the same value. -/
def ofFloat32 (r : Float32) : Number :=
  real r.toFloat

instance : Coe Int8 Number := ⟨ofInt8⟩
instance : Coe Int16 Number := ⟨ofInt16⟩
instance : Coe Int32 Number := ⟨ofInt32⟩
instance : Coe Int64 Number := ⟨integer⟩
instance : Coe UInt8 Number := ⟨ofUInt8⟩
instance : Coe UInt16 Number := ⟨ofUInt16⟩
instance : Coe UInt32 Number := ⟨ofUInt32⟩
instance : Coe Float32 Number := ⟨ofFloat32⟩
instance : Coe Float Number := ⟨real⟩

end Reckoner.Number

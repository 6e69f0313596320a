/-! How the bits of a floating-point number are laid out. -/
namespace KeyedImages.Decimal

/-- The bit in front of the 52 bits of a fraction. It is not stored where the exponent is. -/
def leadingBit : Nat := 0x10000000000000

/-- The stored exponent of infinity and of what is no number. -/
def lastExponent : Nat := 2047

end KeyedImages.Decimal

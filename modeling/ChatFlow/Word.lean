namespace ChatFlow

def maxHalfWord : Nat := 4294967295

def maxWord : Nat := 18446744073709551615

/-- The greatest number of 64 bits with a sign, `2 ^ 63 - 1`. -/
def maxSignedWord : Nat := 9223372036854775807

end ChatFlow

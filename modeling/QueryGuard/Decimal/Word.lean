/-!
How many words of 64 bits there are, without a sign and with one.
-/

namespace QueryGuard.Decimal

def words64 : Nat := 0x10000000000000000

def halfWords64 : Nat := 0x8000000000000000

end QueryGuard.Decimal

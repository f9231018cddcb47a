/-! # Powers

The powers of the bases in which numbers are held and written.
-/

namespace PromptForm

def twoPow (k : Nat) : Nat := Nat.pow 2 k

def tenPow (k : Nat) : Nat := Nat.pow 10 k

end PromptForm

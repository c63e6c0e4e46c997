/-!
# Powers of two and ten

The spacings of the binary grid of doubles and of the decimal grids that their texts are taken from.
-/
namespace GraphCompletion

/-- Two to the power `n`. -/
def twoTo (n : Nat) : Nat := Nat.pow 2 n

/-- Ten to the power `n`. -/
def tenTo (n : Nat) : Nat := Nat.pow 10 n

end GraphCompletion

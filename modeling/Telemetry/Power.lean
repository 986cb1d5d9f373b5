/-!
# Powers

Sizes and bounds are written as powers throughout: `2 ^ 96` object ids, `2 ^ 63` whole numbers on
either side of zero, `10 ^ k` for a decimal place. Here `^` is fixed to be repeated multiplication
of numbers with a natural exponent, also where a larger algebraic theory is in scope and offers a
power of its own, so that one written bound is one term everywhere.
-/

attribute [instance (high + 1), default_instance (high + 1)] instPowNat

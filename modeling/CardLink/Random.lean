namespace CardLink

/-- A source of random words, as the sequence of its draws. -/
structure RandomSource where
  word : Nat → UInt32
  /-- How many words have been drawn. -/
  drawn : Nat := 0

namespace RandomSource

def next (r : RandomSource) : UInt32 × RandomSource :=
  (r.word r.drawn, { r with drawn := r.drawn + 1 })

/-- Words that step evenly from a first one. -/
def stepping (start step : UInt32) : RandomSource where
  word n := start + UInt32.ofNat n * step

end RandomSource

end CardLink

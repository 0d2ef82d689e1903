import SellerApi.Text.Description

/-! # Pacing

A bucket of permits: it holds a burst of them and gets new ones at a steady rate. Here it is looked
at for one moment, in which no new permit arrives unless the rate is beyond what a clock of
nanoseconds can tell. A client keeps its pacing and tells of it, but how long a message waits for
its permit is no part of a fetch. -/

namespace SellerApi

/-- How many requests a client sends: so many per second, and a burst of so many at once. -/
structure Pacing where
  perSecond : Nat := 10
  burst : Nat := 10
  deriving DecidableEq, Repr

namespace Pacing

/-- The nanoseconds between two new permits. A rate of zero counts as one. -/
def interval (p : Pacing) : Nat := 1000000000 / max p.perSecond 1

/-- How many permits a full bucket has. A burst of zero counts as one. -/
def capacity (p : Pacing) : Nat := max p.burst 1

/-- A pacing as a diagnostic shows it. -/
def describe (p : Pacing) : String :=
  Text.describeRecord "RateLimiterConfig"
    [("requests_per_second", Text.natText p.perSecond), ("burst_size", Text.natText p.burst)]

end Pacing

/-- A bucket at one moment: how many permits were taken in it. -/
structure Bucket where
  pacing : Pacing
  taken : Nat := 0
  deriving DecidableEq, Repr

namespace Bucket

/-- Takes a permit if there is one. -/
def take (b : Bucket) : Bool × Bucket :=
  if b.pacing.interval = 0 ∨ b.taken < b.pacing.capacity then
    (true, { b with taken := b.taken + 1 })
  else (false, b)

/-- Whether each of so many takes in a row gets a permit. -/
def takes (b : Bucket) : Nat → List Bool
  | 0 => []
  | n + 1 => b.take.1 :: b.take.2.takes n

/-- A bucket as a diagnostic shows it. -/
def description : String := Text.describePartly "RateLimiter" []

end Bucket
end SellerApi

/-
This file is a small library of searches that keep the cheapest candidate so far. The candidates
come in groups, of each of which the cheapest is known. It is kept if it costs less than the bound,
and then what it costs is the bound for the groups that come after.
-/

import Mathlib.Data.Set.Basic
import Mathlib.Order.Defs.LinearOrder

variable {Candidate Cost : Type*} [LinearOrder Cost]

/-- What a search ends with: the cheapest candidate, or what there was before if none costs less
than the bound. -/
inductive Cheapest (cost : Candidate → Cost) (candidates : Set Candidate) (before : Candidate)
    (bound : Cost) (result : Candidate) : Prop
  | kept (same : result = before) (dear : ∀ candidate ∈ candidates, bound ≤ cost candidate)
  | found (isCandidate : result ∈ candidates) (cheap : cost result < bound)
      (least : ∀ candidate ∈ candidates, cost result ≤ cost candidate)

namespace Cheapest

variable {cost : Candidate → Cost} {group candidates : Set Candidate} {before result : Candidate}
  {bound : Cost}

/-- A group without a candidate below the bound changes nothing. -/
theorem after_dear (search : Cheapest cost candidates before bound result)
    (dear : ∀ candidate ∈ group, bound ≤ cost candidate) :
    Cheapest cost (group ∪ candidates) before bound result := by
  cases search with
  | kept same dearToo =>
    exact .kept same fun candidate member => member.elim (dear candidate) (dearToo candidate)
  | found isCandidate cheap least =>
    refine .found (.inr isCandidate) cheap fun candidate member => ?_
    exact member.elim (fun inGroup => cheap.le.trans (dear candidate inGroup)) (least candidate)

/-- The cheapest of a group costs less than the bound, and the search goes on with it. -/
theorem after_cheap {nearest : Candidate}
    (search : Cheapest cost candidates nearest (cost nearest) result) (inGroup : nearest ∈ group)
    (cheap : cost nearest < bound) (least : ∀ candidate ∈ group, cost nearest ≤ cost candidate) :
    Cheapest cost (group ∪ candidates) before bound result := by
  cases search with
  | kept same dear =>
    subst same
    exact .found (.inl inGroup) cheap fun candidate member =>
      member.elim (least candidate) (dear candidate)
  | found isCandidate cheaper leastToo =>
    refine .found (.inr isCandidate) (cheaper.trans cheap) fun candidate member => ?_
    exact member.elim (fun inGroup => cheaper.le.trans (least candidate inGroup))
      (leastToo candidate)

/-- Where some candidate costs less than the bound, the cheapest is found. -/
theorem isFound (search : Cheapest cost candidates before bound result) {candidate : Candidate}
    (member : candidate ∈ candidates) (cheap : cost candidate < bound) :
    result ∈ candidates ∧ ∀ other ∈ candidates, cost result ≤ cost other := by
  cases search with
  | kept _ dear => exact absurd cheap (not_lt.mpr (dear candidate member))
  | found isCandidate _ least => exact ⟨isCandidate, least⟩

/-- Where the result is a candidate and what there was before is none, it costs less than the
bound. -/
theorem lt_bound (search : Cheapest cost candidates before bound result)
    (isCandidate : result ∈ candidates) (isNew : before ∉ candidates) : cost result < bound := by
  cases search with
  | kept same _ => exact absurd (same ▸ isCandidate) isNew
  | found _ cheap _ => exact cheap

end Cheapest

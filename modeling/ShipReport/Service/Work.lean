/-!
# Work on a state

What the service does is a series of requests to a state. A request succeeds or fails as a whole;
when one fails, what the requests before it did stays done.
-/

namespace ShipReport.Service

/-- Work on a state that may fail. The state after a failure is kept. -/
abbrev Work (σ ε α : Type) := ExceptT ε (StateM σ) α

namespace Work

variable {σ τ ε ε₁ ε₂ α : Type}

/-- A request that only looks. -/
def look (f : σ → Except ε α) : Work σ ε α := fun s => (f s, s)

/-- A request that changes the state, or fails and leaves it. -/
def change (f : σ → Except ε (σ × α)) : Work σ ε α := fun s =>
  match f s with
  | .ok (t, a) => (.ok a, t)
  | .error e => (.error e, s)

/-- A request whose changes stay also when it fails. -/
def attempt (f : σ → σ × Except ε α) : Work σ ε α := fun s =>
  let (t, r) := f s
  (r, t)

/-- The work with another kind of error. -/
def orError (work : Work σ ε₁ α) (f : ε₁ → ε₂) : Work σ ε₂ α := fun s =>
  let (r, t) := work s
  (r.mapError f, t)

/-- Work on a part of the state. -/
def onPart (get : σ → τ) (set : σ → τ → σ) (work : Work τ ε α) : Work σ ε α := fun s =>
  let (r, t) := work (get s)
  (r, set s t)

/-- The result of the work and the state after it. -/
def runOn (work : Work σ ε α) (s : σ) : Except ε α × σ :=
  work s

end Work

end ShipReport.Service

import AirQuality.Lib.Machine
import Mathlib.Logic.Function.Iterate
import Mathlib.Order.Lattice
import Mathlib.Algebra.Order.Group.Int

/-!
# The bounded parallel map

`mapLimit` of `apps/dashboard/src/lib/stats.ts`. Its workers share `next` and `results`; each runs without a break from one
`await` to the next. When a task settles, and when a worker that awaits a settled task goes on, is left to an arbitrary list of
events. A promise is `none` while it is pending.
-/

namespace AirQuality.Dashboard

/-- A call of `task`: the index and the item it was made for, and the promise it gave. -/
structure TaskCall (α β ε : Type) where
  index : Nat
  item : α
  promise : Option (Except ε β)
deriving DecidableEq

/-- Where a `worker` is: it awaits the promise of a call, to put its value at `index`, or its own promise is settled. -/
inductive Worker (ε : Type) where
  | awaiting (index call : Nat)
  | returned
  | threw (reason : ε)
deriving DecidableEq

/-- The variables of `mapLimit`, the calls of `task` so far, and the promise `mapLimit` gave. -/
structure MapLimit (α β ε : Type) where
  /-- `none` at an index nothing was put at yet. -/
  results : List (Option β)
  next : Nat
  calls : List (TaskCall α β ε)
  workers : List (Worker ε)
  promise : Option (Except ε (List (Option β)))
deriving DecidableEq

inductive MapLimitEvent (β ε : Type) where
  /-- The promise of a call settles. -/
  | settle (call : Nat) (outcome : Except ε β)
  /-- A worker whose call has settled goes on. -/
  | resume (worker : Nat)

variable {α β ε : Type}

/-- The reason a worker threw. -/
def Worker.reason? : Worker ε → Option ε
  | .threw reason => some reason
  | _ => none

def Worker.isReturned : Worker ε → Bool
  | .returned => true
  | _ => false

def Worker.isAwaiting : Worker ε → Bool
  | .awaiting _ _ => true
  | _ => false

namespace MapLimit

/-- The `while` loop of `worker`, up to its next `await` or to its end. -/
def loop (items : List α) (s : MapLimit α β ε) : MapLimit α β ε × Worker ε :=
  match items[s.next]? with
  | some item =>
    ({ s with next := s.next + 1, calls := s.calls ++ [{ index := s.next, item, promise := none }] },
      .awaiting s.next s.calls.length)
  | none => (s, .returned)

/-- A call of `worker`. -/
def spawn (items : List α) (s : MapLimit α β ε) : MapLimit α β ε :=
  { (s.loop items).1 with workers := s.workers ++ [(s.loop items).2] }

/-- `await Promise.all`: the first worker to throw rejects it, and with it `mapLimit`; once all have returned, `mapLimit` returns
`results`. -/
def awaitAll (s : MapLimit α β ε) : MapLimit α β ε :=
  match s.promise with
  | none =>
    match s.workers.findSome? Worker.reason? with
    | some reason => { s with promise := some (.error reason) }
    | none => if s.workers.all Worker.isReturned then { s with promise := some (.ok s.results) } else s
  | some _ => s

/-- `new Array(items.length)`, before the first worker. -/
def init (items : List α) : MapLimit α β ε :=
  { results := List.replicate items.length none, next := 0, calls := [], workers := [], promise := none }

/-- `mapLimit`, up to its `await`: `Array.from` calls as many workers as the limit and the items allow. -/
def start (items : List α) (limit : ℤ) : MapLimit α β ε :=
  ((spawn items)^[(min limit items.length).toNat] (init items)).awaitAll

/-- Worker `k`, behind its `await`, on a value. -/
def proceed (items : List α) (s : MapLimit α β ε) (k index : Nat) (value : β) : MapLimit α β ε :=
  let s := { s with results := s.results.set index (some value) }
  { (s.loop items).1 with workers := s.workers.set k (s.loop items).2 }

/-- Worker `k`, behind its `await`, on a rejection. -/
def fail (s : MapLimit α β ε) (k : Nat) (reason : ε) : MapLimit α β ε :=
  { s with workers := s.workers.set k (.threw reason) }

end MapLimit

/-- `mapLimit` once it has been called. A step says whether the event could happen; if not, nothing does. -/
def mapLimitMachine (items : List α) : Machine (MapLimit α β ε) (MapLimitEvent β ε) Bool where
  step s
    | .settle call outcome =>
      match s.calls[call]? with
      | some { index, item, promise := none } =>
        ({ s with calls := s.calls.set call { index, item, promise := some outcome } }, true)
      | _ => (s, false)
    | .resume k =>
      match s.workers[k]? with
      | some (.awaiting index call) =>
        match s.calls[call]? with
        | some { promise := some (.ok value), .. } => ((s.proceed items k index value).awaitAll, true)
        | some { promise := some (.error reason), .. } => ((s.fail k reason).awaitAll, true)
        | _ => (s, false)
      | _ => (s, false)

end AirQuality.Dashboard

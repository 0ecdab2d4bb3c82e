import JoinPaths.Queue
import JoinPaths.Search.Reach
import JoinPaths.Search.Trail

/-!
# Breadth-first search for trails

The search keeps a queue of trails. It takes the oldest one: if that ends at the goal it is found,
otherwise its extensions join the queue. Shorter trails are taken before longer ones, and among
trails of one length those with smaller nodes first. The search is over when the queue is empty or
no more trails are asked for. What is queued loses weight at every step (`weight_next?_lt`), so a
search ends on every grid, cyclic or not.

`findTrails` looks first whether the goal can be reached at all, and keeps to nodes that reach it;
that leaves out only trails out of which nothing could be found.
-/

namespace JoinPaths

/-- The state of a search for trails. -/
structure Search (n : Nat) where
  /-- The trails that may still grow, the oldest first. -/
  queue : Queue (Trail n)
  /-- The trails found so far, the latest first. -/
  found : List (Trail n)
  /-- How many trails are still asked for. -/
  room : Nat

namespace Search
variable {n : Nat}

/-- The search for at most `limit` trails, before its first step. -/
def begin (start : Fin n) (limit : Nat) : Search n :=
  ⟨.ofList [.start start], [], limit⟩

/-- The trail that the next step takes, and the queue without it. -/
def take? (s : Search n) : Option (Trail n × Queue (Trail n)) :=
  if s.room = 0 then none else s.queue.pop?

/-- One step: a trail to the goal is found, any other is replaced by its extensions. -/
def next? (g : LinkGrid n) (keep : Fin n → Bool) (goal : Fin n) (s : Search n) :
    Option (Search n) :=
  s.take?.map fun (t, queue) =>
    if t.last = goal then ⟨queue, t :: s.found, s.room - 1⟩
    else { s with queue := queue.pushAll (t.extensions g keep) }

/-- The weight of all that is queued. -/
def weight (s : Search n) : Nat :=
  total Trail.weight s.queue.toList

theorem toList_of_take? {s : Search n} {t : Trail n} {queue : Queue (Trail n)}
    (h : s.take? = some (t, queue)) : s.queue.toList = t :: queue.toList := by
  unfold take? at h
  split at h
  · simp at h
  · exact Queue.toList_of_pop? h

/-- Every step makes the queue lighter. -/
theorem weight_next?_lt {g : LinkGrid n} {keep : Fin n → Bool} {goal : Fin n} {s s' : Search n}
    (h : s.next? g keep goal = some s') : s'.weight < s.weight := by
  obtain ⟨⟨t, queue⟩, ht, rfl⟩ := Option.map_eq_some_iff.1 h
  have hq := toList_of_take? ht
  dsimp only
  split
  · have := t.weight_pos
    simp only [weight, hq, total]
    omega
  · have := t.total_weight_extensions_lt g keep
    simp only [weight, hq, Queue.toList_pushAll, total_append, total]
    omega

/-- The search when it is over. -/
def run (g : LinkGrid n) (keep : Fin n → Bool) (goal : Fin n) (s : Search n) : Search n :=
  match _h : s.next? g keep goal with
  | none => s
  | some s' => run g keep goal s'
termination_by s.weight
decreasing_by exact weight_next?_lt _h

/-- The trails that the search takes, in order. -/
def taken (g : LinkGrid n) (keep : Fin n → Bool) (goal : Fin n) (s : Search n) : List (Trail n) :=
  match _h : s.next? g keep goal with
  | none => []
  | some s' => (s.take?.map Prod.fst).toList ++ taken g keep goal s'
termination_by s.weight
decreasing_by exact weight_next?_lt _h

end Search

namespace LinkGrid
variable {n : Nat}

/-- The first `limit` trails from `start` to `goal` over nodes that `keep` admits. -/
def findTrailsWithin (g : LinkGrid n) (keep : Fin n → Bool) (start goal : Fin n) (limit : Nat) :
    List (Trail n) :=
  ((Search.begin start limit).run g keep goal).found.reverse

/-- The first `limit` trails from `start` to `goal`: shorter ones first, and of one length those
with smaller nodes first. -/
def findTrails (g : LinkGrid n) (start goal : Fin n) (limit : Nat) : List (Trail n) :=
  let marks := g.reaching goal
  if limit = 0 ∨ marks.get start = false then []
  else g.findTrailsWithin (fun i => marks.get i) start goal limit

/-- If trails are asked for and the goal is reached, the search keeps to the marked nodes. -/
theorem findTrails_of_reaching {g : LinkGrid n} {start goal : Fin n} {limit : Nat}
    (hlimit : limit ≠ 0) (hstart : (g.reaching goal).get start = true) :
    g.findTrails start goal limit =
      g.findTrailsWithin (fun i => (g.reaching goal).get i) start goal limit :=
  if_neg (not_or.2 ⟨hlimit, by rw [hstart]; nofun⟩)

end LinkGrid

end JoinPaths

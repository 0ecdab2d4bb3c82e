/-!
# First-in, first-out queues

A queue keeps its oldest items in `front` and its newest ones, latest first, in `back`, so that both
ends are cheap. Everything is said of the view `toList`, which lists the items from the oldest to
the newest (`toList_pushAll`, `pop?_eq_none_iff`, `toList_of_pop?`).
-/

namespace JoinPaths

/-- A queue in two halves. -/
structure Queue (α : Type) where
  /-- The oldest items, oldest first. -/
  front : List α
  /-- The newest items, newest first. -/
  back : List α

namespace Queue
variable {α : Type}

/-- The items from the oldest to the newest. -/
def toList (q : Queue α) : List α :=
  q.front ++ q.back.reverse

/-- The queue of these items, the first one to be taken first. -/
def ofList (items : List α) : Queue α :=
  ⟨items, []⟩

/-- Puts items at the end, the last one of them to be taken last. -/
def pushAll (q : Queue α) (items : List α) : Queue α :=
  { q with back := items.reverseAux q.back }

/-- Takes the oldest item. -/
def pop? (q : Queue α) : Option (α × Queue α) :=
  match q.front with
  | a :: front => some (a, { q with front })
  | [] =>
    match q.back.reverse with
    | a :: front => some (a, ⟨front, []⟩)
    | [] => none

@[simp] theorem toList_ofList (items : List α) : (ofList items).toList = items := by
  simp [ofList, toList]

@[simp] theorem toList_pushAll (q : Queue α) (items : List α) :
    (q.pushAll items).toList = q.toList ++ items := by
  simp [pushAll, toList, List.reverseAux_eq]

/-- Only an empty queue has nothing to give. -/
theorem pop?_eq_none_iff (q : Queue α) : q.pop? = none ↔ q.toList = [] := by
  obtain ⟨front, back⟩ := q
  cases front with
  | cons a front => simp [pop?, toList]
  | nil => cases h : back.reverse <;> simp [pop?, toList, h]

/-- What a queue gives is its oldest item, and the others stay as they were. -/
theorem toList_of_pop? {q q' : Queue α} {a : α} (h : q.pop? = some (a, q')) :
    q.toList = a :: q'.toList := by
  obtain ⟨front, back⟩ := q
  cases front with
  | cons b front =>
    simp only [pop?, Option.some.injEq, Prod.mk.injEq] at h
    obtain ⟨rfl, rfl⟩ := h
    simp [toList]
  | nil =>
    cases hb : back.reverse with
    | nil => simp [pop?, hb] at h
    | cons b front =>
      simp only [pop?, hb, Option.some.injEq, Prod.mk.injEq] at h
      obtain ⟨rfl, rfl⟩ := h
      simp [toList, hb]

end Queue

end JoinPaths

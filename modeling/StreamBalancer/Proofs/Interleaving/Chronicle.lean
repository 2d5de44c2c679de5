import StreamBalancer.Proofs.Interleaving.Life

/-!
# StreamBalancer.Proofs.Interleaving.Chronicle

What a history tells of a list that grows at its end and shrinks at its front.

1. `gained?` and `lost?` read off two successive states what joined the list and what
   left it, and `gather` collects such readings over a history, the earliest first.
2. What joined a queue is what left it, followed by what is in it (`fifo`).
-/

namespace StreamBalancer

section Reading

variable {α : Type}

/-- What a list has gained at its end. -/
def gained? (old new : List α) : Option α :=
  if new.length = old.length + 1 then new.getLast? else none

/-- What a list has lost at its front. -/
def lost? (old new : List α) : Option α :=
  if old.length = new.length + 1 then old.head? else none

@[simp] theorem gained?_self (l : List α) : gained? l l = none := by simp [gained?]

@[simp] theorem lost?_self (l : List α) : lost? l l = none := by simp [lost?]

@[simp] theorem gained?_concat (l : List α) (x : α) : gained? l (l ++ [x]) = some x := by
  simp [gained?]

@[simp] theorem lost?_concat (l : List α) (x : α) : lost? l (l ++ [x]) = none := by
  simp [lost?]
  omega

@[simp] theorem lost?_cons (l : List α) (x : α) : lost? (x :: l) l = some x := by simp [lost?]

@[simp] theorem gained?_cons (l : List α) (x : α) : gained? (x :: l) l = none := by
  simp [gained?]
  omega

/-- Nothing is gained where something is taken out of the midst. -/
@[simp] theorem gained?_middle (front back : List α) (x : α) :
    gained? (front ++ x :: back) (front ++ back) = none := by
  simp [gained?]
  omega

theorem mem_of_lost? {old new : List α} {x : α} (h : lost? old new = some x) : x ∈ old := by
  unfold lost? at h
  split at h
  · exact List.mem_of_mem_head? h
  · contradiction

/-- What can happen to a queue. -/
inductive Passes (old new : List α) : Prop where
  | same (h : new = old)
  | joins (x : α) (h : new = old ++ [x])
  | leaves (x : α) (h : old = x :: new)

end Reading

namespace World

/-- What one reads off the steps of a history, the earliest first. -/
def gather {α : Type} (observe : World → World → Option α) : List World → List α
  | w' :: w :: past => gather observe (w :: past) ++ (observe w w').toList
  | _ => []

theorem gather_cons {α : Type} (observe : World → World → Option α) (w' w : World)
    (past : List World) :
    gather observe (w' :: w :: past) = gather observe (w :: past) ++ (observe w w').toList := rfl

end World

/-- **First in, first out**: what joined a queue is what left it, followed by what is in
it. -/
theorem Passes.fifo {α : Type} {joined left old new : List α} (h : Passes old new)
    (hold : joined = left ++ old) :
    joined ++ (gained? old new).toList = left ++ (lost? old new).toList ++ new := by
  cases h with
  | same h => simp [h, hold]
  | joins x h => simp [h, hold]
  | leaves x h => simp [h, hold]

end StreamBalancer

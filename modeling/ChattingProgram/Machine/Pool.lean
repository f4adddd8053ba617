import Mathlib.Algebra.BigOperators.Group.List.Basic
import Mathlib.Tactic.Ring

namespace ChattingProgram.Machine

/-! # Counting over a pool of processes

A pool is the list of the processes that are running.  One step replaces one
process, so a sum of weights over the pool changes by the difference of the two
weights.  Counting invariants over any number of processes are sums of this
kind.
-/

variable {Process : Type}

def total (weight : Process → Nat) (pool : List Process) : Nat :=
  (pool.map weight).sum

@[simp] theorem total_nil (weight : Process → Nat) : total weight [] = 0 := rfl

@[simp] theorem total_cons (weight : Process → Nat) (process : Process) (pool : List Process) :
    total weight (process :: pool) = weight process + total weight pool := by
  simp [total]

@[simp] theorem total_append (weight : Process → Nat) (left right : List Process) :
    total weight (left ++ right) = total weight left + total weight right := by
  simp [total]

theorem total_add (first second : Process → Nat) (pool : List Process) :
    total (fun process => first process + second process) pool =
      total first pool + total second pool := by
  induction pool with
  | nil => rfl
  | cons head tail ih =>
      simp only [total_cons, ih]
      omega

theorem total_flatMap {Part : Type} (weight : Part → Nat) (parts : Process → List Part)
    (pool : List Process) :
    total weight (pool.flatMap parts) = total (fun process => total weight (parts process)) pool :=
      by
  induction pool with
  | nil => rfl
  | cons head tail ih => simp [ih]

/-- Replacing one process moves a total by the difference of two weights. -/
theorem total_set (weight : Process → Nat) (after : Process) (found : pool[index]? = some before) :
    total weight (pool.set index after) + weight before = total weight pool + weight after := by
  induction pool generalizing index with
  | nil => simp at found
  | cons head tail ih =>
      cases index with
      | zero =>
          simp only [List.getElem?_cons_zero, Option.some.injEq] at found
          subst found
          simp only [List.set_cons_zero, total_cons]
          omega
      | succ index =>
          have rest := ih (by simpa using found)
          simp only [List.set_cons_succ, total_cons]
          omega

theorem total_set_same (weight : Process → Nat) (found : pool[index]? = some before)
    (same : weight after = weight before) :
    total weight (pool.set index after) = total weight pool := by
  have moved := total_set weight after found
  omega

theorem total_congr {first second : Process → Nat}
    (same : ∀ process ∈ pool, first process = second process) :
    total first pool = total second pool := by
  simp only [total, List.map_congr_left same]

theorem weight_le_total (weight : Process → Nat) (member : process ∈ pool) :
    weight process ≤ total weight pool := by
  induction pool with
  | nil => simp at member
  | cons head tail ih =>
      simp only [total_cons]
      rcases List.mem_cons.mp member with same | later
      · subst same
        omega
      · have bound := ih later
        omega

theorem total_le (weight : Process → Nat) (bounded : ∀ process ∈ pool, weight process ≤ bound) :
    total weight pool ≤ bound * pool.length := by
  induction pool with
  | nil => simp
  | cons head tail ih =>
      have headBound := bounded head (by simp)
      have rest := ih fun process member => bounded process (by simp [member])
      simp only [total_cons, List.length_cons, Nat.mul_add, Nat.mul_one]
      omega

/-- Two different processes both count. -/
theorem weight_add_le_total (weight : Process → Nat) {second : Nat}
    (foundLeft : pool[first]? = some left) (foundRight : pool[second]? = some right)
    (different : first ≠ second) : weight left + weight right ≤ total weight pool := by
  induction pool generalizing first second with
  | nil => simp at foundLeft
  | cons head tail ih =>
      simp only [total_cons]
      cases first with
      | zero =>
          cases second with
          | zero => exact absurd rfl different
          | succ second =>
              have bound := weight_le_total weight
                (List.mem_of_getElem? (by simpa using foundRight : tail[second]? = some right))
              simp only [List.getElem?_cons_zero, Option.some.injEq] at foundLeft
              subst foundLeft
              omega
      | succ first =>
          cases second with
          | zero =>
              have bound := weight_le_total weight
                (List.mem_of_getElem? (by simpa using foundLeft : tail[first]? = some left))
              simp only [List.getElem?_cons_zero, Option.some.injEq] at foundRight
              subst foundRight
              omega
          | succ second =>
              have bound := ih (show tail[first]? = some left by simpa using foundLeft)
                (show tail[second]? = some right by simpa using foundRight) (by omega)
              omega

theorem total_eq_zero {weight : Process → Nat} :
    total weight pool = 0 ↔ ∀ process ∈ pool, weight process = 0 := by
  induction pool with
  | nil => simp
  | cons head tail ih => simp [ih]

/-! ## Tokens

Some positions of a process carry a token.  `tokens` lists those in circulation;
while there is at most one, a step of its holder decides what it becomes.
-/

def tokens (token : Process → Option Token) (pool : List Process) : List Token :=
  pool.filterMap token

/-- After a step a process is the one that moved, or one elsewhere that did not. -/
theorem set_same {pool : List Process} (found : pool[index]? = some process) :
    pool.set index process = pool := by
  apply List.ext_getElem?
  intro place
  rw [List.getElem?_set]
  split
  · rename_i here
    subst here
    rw [if_pos (List.getElem?_eq_some_iff.mp found).1, found]
  · rfl

theorem map_modify {Image : Type} {pool : List Process} {change : Process → Process}
    {image : Process → Image} (same : ∀ process, image (change process) = image process) :
    (pool.modify index change).map image = pool.map image := by
  apply List.ext_getElem?
  intro place
  rw [List.getElem?_map, List.getElem?_map, List.getElem?_modify]
  cases pool[place]? with
  | none => rfl
  | some process => by_cases here : index = place <;> simp [here, same process]

/-- Replacing one process replaces one stretch of what the processes consist of. -/
theorem flatMap_set {Part : Type} (parts : Process → List Part) {pool : List Process}
    (found : pool[index]? = some before) :
    ∃ left right, pool.flatMap parts = left ++ (parts before ++ right) ∧
      ∀ after, (pool.set index after).flatMap parts = left ++ (parts after ++ right) := by
  induction pool generalizing index with
  | nil => simp at found
  | cons head tail ih =>
      cases index with
      | zero =>
          simp only [List.getElem?_cons_zero, Option.some.injEq] at found
          subst found
          exact ⟨[], tail.flatMap parts, by simp, by simp⟩
      | succ index =>
          obtain ⟨left, right, same, moved⟩ := ih (by simpa using found)
          refine ⟨parts head ++ left, right, by simp [same], ?_⟩
          intro after
          simp [moved after]

theorem getElem?_set_cases {pool : List Process}
    (found : (pool.set index next)[place]? = some process) :
    (place = index ∧ process = next) ∨ (index ≠ place ∧ pool[place]? = some process) := by
  rw [List.getElem?_set] at found
  split at found
  · rename_i here
    split at found
    · exact .inl ⟨here.symm, (Option.some.inj found).symm⟩
    · contradiction
  · rename_i elsewhere
    exact .inr ⟨elsewhere, found⟩

theorem mem_set_cases {pool : List Process} (member : process ∈ pool.set index next) :
    process = next ∨ ∃ place, index ≠ place ∧ pool[place]? = some process := by
  obtain ⟨place, found⟩ := List.mem_iff_getElem?.mp member
  rcases getElem?_set_cases found with ⟨_, moved⟩ | elsewhere
  · exact .inl moved
  · exact .inr ⟨place, elsewhere⟩

theorem getElem?_concat_cases (found : (pool ++ [next])[place]? = some process) :
    pool[place]? = some process ∨ (place = pool.length ∧ process = next) := by
  rw [List.getElem?_append] at found
  split at found
  · exact .inl found
  · have last := (List.getElem?_eq_some_iff.mp found).1
    simp only [List.length_singleton] at last
    exact .inr ⟨by omega, List.mem_singleton.mp (List.mem_of_getElem? found)⟩

section Tokens

variable {Token : Type} {token : Process → Option Token} {pool : List Process}
  {index : Nat} {before : Process}

@[simp] theorem tokens_append (left right : List Process) :
    tokens token (left ++ right) = tokens token left ++ tokens token right :=
  List.filterMap_append

theorem tokens_set_bystander (found : pool[index]? = some before) (outside : token before = none)
    (still : token after = none) : tokens token (pool.set index after) = tokens token pool := by
  induction pool generalizing index with
  | nil => simp at found
  | cons head tail ih =>
      cases index with
      | zero =>
          simp only [List.getElem?_cons_zero, Option.some.injEq] at found
          subst found
          simp [tokens, outside, still]
      | succ index =>
          have rest := ih (by simpa using found)
          simp only [List.set_cons_succ]
          simp only [tokens, List.filterMap_cons] at rest ⊢
          rw [rest]

theorem tokens_set_of_nil (after : Process) (found : pool[index]? = some before)
    (empty : tokens token pool = []) :
    tokens token (pool.set index after) = (token after).toList := by
  induction pool generalizing index with
  | nil => simp at found
  | cons head tail ih =>
      simp only [tokens, List.filterMap_eq_nil_iff, List.mem_cons, forall_eq_or_imp] at empty
      have tailEmpty : tail.filterMap token = [] := List.filterMap_eq_nil_iff.mpr empty.2
      cases index with
      | zero => cases value : token after <;> simp [tokens, value, tailEmpty]
      | succ index =>
          have rest := ih (by simpa using found) tailEmpty
          simpa only [List.set_cons_succ, tokens, List.filterMap_cons, empty.1] using rest

/-- The holder of the only token replaces it. -/
theorem tokens_set_holder (after : Process) (found : pool[index]? = some before)
    (holds : token before = some held) (single : tokens token pool = [only]) :
    held = only ∧ tokens token (pool.set index after) = (token after).toList := by
  induction pool generalizing index with
  | nil => simp at found
  | cons head tail ih =>
      cases index with
      | zero =>
          simp only [List.getElem?_cons_zero, Option.some.injEq] at found
          subst found
          simp only [tokens, List.filterMap_cons, holds, List.cons.injEq] at single
          refine ⟨single.1, ?_⟩
          cases value : token after <;> simp [tokens, value, single.2]
      | succ index =>
          have later : tail[index]? = some before := by simpa using found
          cases value : token head with
          | none =>
              simp only [tokens, List.filterMap_cons, value] at single
              obtain ⟨same, rest⟩ := ih later single
              refine ⟨same, ?_⟩
              simpa only [List.set_cons_succ, tokens, List.filterMap_cons, value] using rest
          | some other =>
              simp only [tokens, List.filterMap_cons, value, List.cons.injEq,
                List.filterMap_eq_nil_iff] at single
              rw [single.2 before (List.mem_of_getElem? later)] at holds
              contradiction

theorem length_tokens (pool : List Process) :
    (tokens token pool).length = total (fun process => (token process).toList.length) pool := by
  induction pool with
  | nil => rfl
  | cons head tail ih =>
      have rest : (tail.filterMap token).length = _ := ih
      cases value : token head <;> simp [tokens, value, rest, Nat.add_comm]

/-- The only token has one holder. -/
theorem holder_unique {second : Nat} (single : tokens token pool = [only])
    (foundLeft : pool[first]? = some left) (holdsLeft : token left = some held)
    (foundRight : pool[second]? = some right) (holdsRight : token right = some other) :
    first = second := by
  by_contra different
  have bound := weight_add_le_total (fun process => (token process).toList.length) foundLeft
    foundRight different
  simp only [← length_tokens, single, holdsLeft, holdsRight, Option.toList_some,
    List.length_singleton] at bound
  omega

end Tokens

end ChattingProgram.Machine

import Mathlib.Data.Set.Basic
import ChattingProgram.Machine.Run
import ChattingProgram.Machine.Pool

namespace ChattingProgram.Machine

/-! # Threads that run structured code under locks

Code keeps the control flow and the scopes of the lock guards of a program and
leaves its data to a choice at every branch, so what holds in every run of the
code holds in every run of the program.  Two checks of the text carry over to
all interleavings: that locks are taken in an order, and that a counted resource
is taken and given back.
-/

inductive Code (Lock Op : Type) where
  | skip
  | op (op : Op)
  | seq (first second : Code Lock Op)
  | either (left right : Code Lock Op)
  /-- A branch for every value that the code may go on with. -/
  | pick (branch : Nat → Code Lock Op)
  | loop (body : Code Lock Op)
  /-- A scope with a lock guard; a lock is re-entrant. -/
  | guard (lock : Lock) (body : Code Lock Op)

inductive Frame (Lock Op : Type) where
  | code (code : Code Lock Op)
  | release (lock : Lock)

structure Thread (Lock Op Local : Type) where
  frames : List (Frame Lock Op)
  locals : Local

structure Threads (Lock Op Shared Local : Type) where
  shared : Shared
  threads : List (Thread Lock Op Local)

/-- A thread takes a step; `choice` decides a branch. -/
structure Turn where
  thread : Nat
  choice : Nat
deriving Repr, DecidableEq

variable {Lock Op Shared Local : Type}

namespace Code

/-- The statements of a block, one after the other. -/
def block : List (Code Lock Op) → Code Lock Op
  | [] => .skip
  | [last] => last
  | first :: rest => .seq first (block rest)

end Code

def Frame.lock : Frame Lock Op → Option Lock
  | .code _ => none
  | .release lock => some lock

/-- The locks that a thread gives back on its way out. -/
def held (frames : List (Frame Lock Op)) : List Lock := frames.filterMap Frame.lock

@[simp] theorem held_code (code : Code Lock Op) (rest : List (Frame Lock Op)) :
    held (.code code :: rest) = held rest := rfl

@[simp] theorem held_release (lock : Lock) (rest : List (Frame Lock Op)) :
    held (.release lock :: rest) = lock :: held rest := rfl

namespace Threads

def put (self : Threads Lock Op Shared Local) (index : Nat) (thread : Thread Lock Op Local) :
    Threads Lock Op Shared Local :=
  { self with threads := self.threads.set index thread }

def Holds (self : Threads Lock Op Shared Local) (index : Nat) (lock : Lock) : Prop :=
  ∃ thread, self.threads[index]? = some thread ∧ lock ∈ held thread.frames

section Step

variable [DecidableEq Lock] (perform : Op → Shared → Local → Shared × Local)

/-- No other thread holds the lock. -/
def free (self : Threads Lock Op Shared Local) (index : Nat) (lock : Lock) : Bool :=
  (self.threads.eraseIdx index).all fun other => lock ∉ held other.frames

theorem free_iff {self : Threads Lock Op Shared Local} :
    self.free index lock = true ↔ ∀ other, other ≠ index → ¬ self.Holds other lock := by
  simp only [free, List.all_eq_true, List.mem_eraseIdx_iff_getElem?, decide_eq_true_eq, Holds]
  constructor
  · rintro clear other apart ⟨thread, found, holds⟩
    exact clear thread ⟨other, apart, found⟩ holds
  · rintro clear thread ⟨other, apart, found⟩ holds
    exact clear other apart ⟨thread, found, holds⟩

def advance (self : Threads Lock Op Shared Local) (index choice : Nat) (locals : Local) :
    List (Frame Lock Op) → Option (Threads Lock Op Shared Local)
  | [] => none
  | .release _ :: rest => some (self.put index ⟨rest, locals⟩)
  | .code .skip :: rest => some (self.put index ⟨rest, locals⟩)
  | .code (.op op) :: rest =>
      let after := perform op self.shared locals
      some ({ self with shared := after.1 }.put index ⟨rest, after.2⟩)
  | .code (.seq first second) :: rest =>
      some (self.put index ⟨.code first :: .code second :: rest, locals⟩)
  | .code (.either left right) :: rest =>
      some (self.put index ⟨.code (if choice = 0 then left else right) :: rest, locals⟩)
  | .code (.pick branch) :: rest => some (self.put index ⟨.code (branch choice) :: rest, locals⟩)
  | .code (.loop body) :: rest =>
      some (self.put index ⟨if choice = 0 then rest else .code body :: .code (.loop body) :: rest,
        locals⟩)
  | .code (.guard lock body) :: rest =>
      if self.free index lock then some (self.put index ⟨.code body :: .release lock :: rest,
        locals⟩) else none

def step (turn : Turn) (self : Threads Lock Op Shared Local) :
    Option (Threads Lock Op Shared Local) :=
  (self.threads[turn.thread]?).bind fun thread =>
    self.advance perform turn.thread turn.choice thread.locals thread.frames

def system : System (Threads Lock Op Shared Local) Turn := ⟨step perform⟩

end Step

/-- A step of a thread, one rule for every form of its first frame. -/
inductive Moves (perform : Op → Shared → Local → Shared × Local) (clear : Lock → Prop)
    (shared : Shared)
    (locals : Local) : List (Frame Lock Op) → List (Frame Lock Op) → Shared → Local → Prop where
  | release {lock rest} : Moves perform clear shared locals (.release lock :: rest)
    rest shared locals
  | skip {rest} : Moves perform clear shared locals (.code .skip :: rest) rest shared locals
  | op {op rest} : Moves perform clear shared locals (.code (.op op) :: rest) rest
      (perform op shared locals).1 (perform op shared locals).2
  | seq {first second rest} : Moves perform clear shared locals (.code (.seq first second) :: rest)
      (.code first :: .code second :: rest) shared locals
  | left {left right rest} : Moves perform clear shared locals (.code (.either left right) :: rest)
      (.code left :: rest) shared locals
  | right {left right rest} : Moves perform clear shared locals (.code (.either left right) :: rest)
      (.code right :: rest) shared locals
  | pick {branch value rest} : Moves perform clear shared locals (.code (.pick branch) :: rest)
      (.code (branch value) :: rest) shared locals
  | leave {body rest} : Moves perform clear shared locals (.code (.loop body) :: rest)
    rest shared locals
  | again {body rest} : Moves perform clear shared locals (.code (.loop body) :: rest)
      (.code body :: .code (.loop body) :: rest) shared locals
  | acquire {lock body rest} : clear lock →
      Moves perform clear shared locals (.code (.guard lock body) :: rest)
      (.code body :: .release lock :: rest) shared locals

section Rules

variable [DecidableEq Lock] {perform : Op → Shared → Local → Shared × Local}
  {self after : Threads Lock Op Shared Local} {turn : Turn}

theorem step_moves (stepped : step perform turn self = some after) :
    ∃ thread frames locals, self.threads[turn.thread]? = some thread ∧
      after.threads = self.threads.set turn.thread ⟨frames, locals⟩ ∧
      Moves perform (fun lock => ∀ other, other ≠ turn.thread →
        ¬ self.Holds other lock) self.shared thread.locals
        thread.frames frames after.shared locals := by
  obtain ⟨⟨frames, locals⟩, found, advanced⟩ := Option.bind_eq_some_iff.mp stepped
  refine ⟨⟨frames, locals⟩, ?_⟩
  cases frames with
  | nil => cases advanced
  | cons top rest =>
      cases top with
      | release lock =>
          cases advanced
          exact ⟨_, _, found, rfl, .release⟩
      | code code =>
          cases code with
          | skip => cases advanced; exact ⟨_, _, found, rfl, .skip⟩
          | op op => cases advanced; exact ⟨_, _, found, rfl, .op⟩
          | seq first second => cases advanced; exact ⟨_, _, found, rfl, .seq⟩
          | either left right =>
              cases advanced
              refine ⟨_, _, found, rfl, ?_⟩
              split
              · exact .left
              · exact .right
          | pick branch => cases advanced; exact ⟨_, _, found, rfl, .pick⟩
          | loop body =>
              cases advanced
              refine ⟨_, _, found, rfl, ?_⟩
              split
              · exact .leave
              · exact .again
          | guard lock body =>
              simp only [advance] at advanced
              split at advanced
              · rename_i clear
                cases advanced
                exact ⟨_, _, found, rfl, .acquire (free_iff.mp clear)⟩
              · contradiction

end Rules

end Threads

/-! ## Lock order -/

/-- Every guard in the code takes a lock that is held already, or one above all
locks that are held. -/
def Code.Ordered (rank : Lock → Nat) (locks : List Lock) : Code Lock Op → Prop
  | .skip | .op _ => True
  | .seq first second => first.Ordered rank locks ∧ second.Ordered rank locks
  | .either left right => left.Ordered rank locks ∧ right.Ordered rank locks
  | .pick branch => ∀ value, (branch value).Ordered rank locks
  | .loop body => body.Ordered rank locks
  | .guard lock body =>
      (lock ∈ locks ∨ ∀ other ∈ locks, rank other < rank lock) ∧ body.Ordered rank (lock :: locks)

theorem Code.ordered_block {rank : Lock → Nat} (codes : List (Code Lock Op)) :
    (Code.block codes).Ordered rank locks ↔ ∀ code ∈ codes, code.Ordered rank locks := by
  induction codes with
  | nil => simp [Code.block, Code.Ordered]
  | cons first rest ih =>
      cases rest with
      | nil => simp [Code.block]
      | cons second rest =>
          have split : (Code.block (first :: second :: rest)).Ordered rank locks ↔
              first.Ordered rank locks ∧ (Code.block (second :: rest)).Ordered rank locks := Iff.rfl
          rw [split, ih]
          exact List.forall_mem_cons.symm

def OrderedFrames (rank : Lock → Nat) : List (Frame Lock Op) → Prop
  | [] => True
  | .code code :: rest => code.Ordered rank (held rest) ∧ OrderedFrames rank rest
  | .release _ :: rest => OrderedFrames rank rest

namespace Threads

variable {perform : Op → Shared → Local → Shared × Local} {rank : Lock → Nat}
  {self after : Threads Lock Op Shared Local} {turn : Turn}

structure Disciplined (rank : Lock → Nat) (state : Threads Lock Op Shared Local) : Prop where
  ordered : ∀ thread ∈ state.threads, OrderedFrames rank thread.frames
  exclusive : ∀ {first second lock}, state.Holds first lock →
    state.Holds second lock → first = second

theorem Moves.ordered {clear : Lock → Prop} {shared : Shared}
    (moves : Moves perform clear shared locals frames goal next later)
    (ordered : OrderedFrames rank frames) : OrderedFrames rank goal := by
  cases moves with
  | release => exact ordered
  | skip | op | leave => exact ordered.2
  | seq => exact ⟨ordered.1.1, ordered.1.2, ordered.2⟩
  | left => exact ⟨ordered.1.1, ordered.2⟩
  | right => exact ⟨ordered.1.2, ordered.2⟩
  | pick => exact ⟨ordered.1 _, ordered.2⟩
  | again => exact ⟨ordered.1, ordered⟩
  | acquire => exact ⟨ordered.1.2, ordered.2⟩

/-- A step takes no lock but one that no other thread holds. -/
theorem Moves.held_cases {clear : Lock → Prop} {shared : Shared}
    (moves : Moves perform clear shared locals frames goal next later) (holds : lock ∈ held goal) :
    lock ∈ held frames ∨ clear lock := by
  cases moves with
  | release => exact .inl (List.mem_cons_of_mem _ holds)
  | acquire free =>
      rcases List.mem_cons.mp holds with rfl | holds
      · exact .inr free
      · exact .inl holds
  | _ => exact .inl holds

theorem step_disciplined [DecidableEq Lock] (stepped : (system perform).step turn self = some after)
    (disciplined : self.Disciplined rank) : after.Disciplined rank := by
  obtain ⟨thread, frames, locals, found, threads, moves⟩ := step_moves stepped
  refine ⟨?_, ?_⟩
  · intro other member
    rw [threads] at member
    rcases mem_set_cases member with rfl | ⟨place, _, elsewhere⟩
    · exact moves.ordered (disciplined.ordered thread (List.mem_of_getElem? found))
    · exact disciplined.ordered other (List.mem_of_getElem? elsewhere)
  · -- the thread that moved holds a new lock only if no other thread does
    have old : ∀ {place lock}, after.Holds place lock → self.Holds place lock ∨
        (place = turn.thread ∧ ∀ other, other ≠ turn.thread → ¬ self.Holds other lock) := by
      rintro place lock ⟨other, foundOther, holds⟩
      rw [threads] at foundOther
      rcases getElem?_set_cases foundOther with ⟨rfl, rfl⟩ | ⟨_, elsewhere⟩
      · rcases moves.held_cases holds with before | clear
        · exact .inl ⟨thread, found, before⟩
        · exact .inr ⟨rfl, clear⟩
      · exact .inl ⟨other, elsewhere, holds⟩
    intro first second lock holdsFirst holdsSecond
    rcases old holdsFirst with before | ⟨rfl, clear⟩
    · rcases old holdsSecond with beforeSecond | ⟨rfl, clear⟩
      · exact disciplined.exclusive before beforeSecond
      · by_contra apart
        exact clear first apart before
    · rcases old holdsSecond with beforeSecond | ⟨rfl, _⟩
      · by_contra apart
        exact clear second (Ne.symm apart) beforeSecond
      · rfl

theorem run_disciplined [DecidableEq Lock] (ran : (system perform).run turns self = some after)
    (disciplined : self.Disciplined rank) : after.Disciplined rank :=
  System.run_preserves step_disciplined ran disciplined

/-- Threads that run code of the right order and hold nothing yet. -/
theorem disciplined_of_ordered {shared : Shared} {threads : List (Thread Lock Op Local)}
    (ordered : ∀ thread ∈ threads, OrderedFrames rank thread.frames)
    (unlocked : ∀ thread ∈ threads, held thread.frames = []) :
    Disciplined rank (⟨shared, threads⟩ : Threads Lock Op Shared Local) := by
  refine ⟨ordered, ?_⟩
  rintro first second lock ⟨thread, found, holds⟩ _
  simp [unlocked thread (List.mem_of_getElem? found)] at holds

/-- The thread is about to take a lock that another one holds. -/
def WaitsFor (self : Threads Lock Op Shared Local) (index : Nat) (lock : Lock) : Prop :=
  ∃ thread body rest, self.threads[index]? = some thread ∧
    thread.frames = .code (.guard lock body) :: rest ∧
    ∃ other, other ≠ index ∧ self.Holds other lock

/-- Every thread of the set waits for a lock that another one of the set holds. -/
def Deadlocked (self : Threads Lock Op Shared Local) (waiting : Set Nat) : Prop :=
  waiting.Nonempty ∧ ∀ index ∈ waiting, ∃ lock, self.WaitsFor index lock ∧
    ∃ owner ∈ waiting, owner ≠ index ∧ self.Holds owner lock

theorem Disciplined.rank_lt (disciplined : self.Disciplined rank)
    (waits : self.WaitsFor index lock) (holds : self.Holds index other) :
    rank other < rank lock := by
  obtain ⟨thread, body, rest, found, frames, owner, apart, owned⟩ := waits
  obtain ⟨same, foundSame, holds⟩ := holds
  cases found.symm.trans foundSame
  have ordered := disciplined.ordered thread (List.mem_of_getElem? found)
  simp only [frames, held_code] at holds ordered
  rcases ordered.1.1 with mine | above
  · have twice : self.Holds index lock := ⟨thread, found, by rw [frames]; exact mine⟩
    exact absurd (disciplined.exclusive owned twice) apart
  · exact above other holds

/-- Along a chain of waiting threads the ranks rise, so the chain does not close. -/
theorem Disciplined.not_deadlocked (bounded : ∀ lock, rank lock ≤ top)
    (disciplined : self.Disciplined rank) (waiting : Set Nat) : ¬ self.Deadlocked waiting := by
  rintro ⟨⟨start, member⟩, stuck⟩
  have rises : ∀ distance index lock, index ∈ waiting → self.WaitsFor index lock →
      top - rank lock = distance → False := by
    intro distance
    induction distance using Nat.strong_induction_on with
    | _ distance ih =>
        intro index lock inside waits away
        obtain ⟨other, waitsOther, owner, ownerInside, _, owned⟩ := stuck index inside
        obtain ⟨next, waitsNext, _⟩ := stuck owner ownerInside
        have same : other = lock := by
          obtain ⟨_, _, _, found, frames, _⟩ := waits
          obtain ⟨_, _, _, foundOther, framesOther, _⟩ := waitsOther
          cases found.symm.trans foundOther
          rw [frames] at framesOther
          cases framesOther
          rfl
        subst same
        have above := disciplined.rank_lt waitsNext owned
        have below := bounded next
        exact ih (top - rank next) (by omega) owner next ownerInside waitsNext rfl
  obtain ⟨lock, waits, _⟩ := stuck start member
  exact rises _ start lock member waits rfl

end Threads

/-! ## A counted resource -/

/-- The code goes from one level of the resource to another, whichever branches it
takes; `change` says what an operation does to the level. -/
def Code.Accounts (change : Op → Nat → Nat → Prop) : Code Lock Op → Nat → Nat → Prop
  | .skip, before, after => before = after
  | .op action, before, after => change action before after
  | .seq first second, before, after => ∃ middle, first.Accounts change before middle ∧
      second.Accounts change middle after
  | .either left right, before, after =>
      left.Accounts change before after ∧ right.Accounts change before after
  | .pick branch, before, after => ∀ value, (branch value).Accounts change before after
  | .loop body, before, after => before = after ∧ body.Accounts change before before
  | .guard _ body, before, after => body.Accounts change before after

@[simp] theorem Code.accounts_block_nil {change : Op → Nat → Nat → Prop} :
    (Code.block [] : Code Lock Op).Accounts change before after ↔ before = after := Iff.rfl

@[simp] theorem Code.accounts_block_cons {change : Op → Nat → Nat → Prop} (first : Code Lock Op)
    (rest : List (Code Lock Op)) :
    (Code.block (first :: rest)).Accounts change before after ↔
      ∃ middle, first.Accounts change before middle ∧
        (Code.block rest).Accounts change middle after := by
  cases rest with
  | nil => simp [Code.block, Code.Accounts]
  | cons second rest => rfl

theorem Code.accounts_block {change : Op → Nat → Nat → Prop} {codes : List (Code Lock Op)}
    (steady : ∀ code ∈ codes, code.Accounts change level level) :
    (Code.block codes).Accounts change level level := by
  induction codes with
  | nil => rfl
  | cons first rest ih =>
      rw [Code.accounts_block_cons]
      exact ⟨level, steady first (by simp), ih fun code member => steady code (by simp [member])⟩

/-- Every operation in the code is one of those allowed. -/
def Code.Only (allowed : Op → Prop) : Code Lock Op → Prop
  | .skip => True
  | .op action => allowed action
  | .seq first second => first.Only allowed ∧ second.Only allowed
  | .either left right => left.Only allowed ∧ right.Only allowed
  | .pick branch => ∀ value, (branch value).Only allowed
  | .loop body | .guard _ body => body.Only allowed

theorem Code.only_block {allowed : Op → Prop} (codes : List (Code Lock Op)) :
    (Code.block codes).Only allowed ↔ ∀ code ∈ codes, code.Only allowed := by
  induction codes with
  | nil => simp [Code.block, Code.Only]
  | cons first rest ih =>
      cases rest with
      | nil => simp [Code.block]
      | cons second rest =>
          have split : (Code.block (first :: second :: rest)).Only allowed ↔
              first.Only allowed ∧ (Code.block (second :: rest)).Only allowed := Iff.rfl
          rw [split, ih]
          exact List.forall_mem_cons.symm

/-- Code whose operations leave the level alone leaves it alone. -/
theorem Code.Only.accounts {allowed : Op → Prop} {change : Op → Nat → Nat → Prop}
    (same : ∀ op, allowed op → ∀ level, change op level level) {code : Code Lock Op}
    (only : code.Only allowed) (level : Nat) : code.Accounts change level level := by
  induction code with
  | skip => rfl
  | op action => exact same action only level
  | seq first second ihFirst ihSecond => exact ⟨level, ihFirst only.1, ihSecond only.2⟩
  | either left right ihLeft ihRight => exact ⟨ihLeft only.1, ihRight only.2⟩
  | pick branch ih => exact fun value => ih value (only value)
  | loop body ih => exact ⟨rfl, ih only⟩
  | guard lock body ih => exact ih only

def AccountedFrames (change : Op → Nat → Nat → Prop) : List (Frame Lock Op) → Nat → Nat → Prop
  | [], before, after => before = after
  | .code code :: rest, before, after => ∃ middle, code.Accounts change before middle ∧
      AccountedFrames change rest middle after
  | .release _ :: rest, before, after => AccountedFrames change rest before after

namespace Threads

variable {perform : Op → Shared → Local → Shared × Local} {change : Op → Nat → Nat → Prop}
  {level : Local → Nat} {self after : Threads Lock Op Shared Local} {turn : Turn} {final : Nat}

/-- Every thread is at a level from which the rest of its code comes back. -/
def Accounted (change : Op → Nat → Nat → Prop) (level : Local → Nat) (final : Nat)
    (self : Threads Lock Op Shared Local) : Prop :=
  ∀ thread ∈ self.threads, AccountedFrames change thread.frames (level thread.locals) final

theorem Moves.accounted {clear : Lock → Prop} {shared : Shared}
    (performs : ∀ op shared locals goal, change op (level locals) goal →
      level (perform op shared locals).2 = goal)
    (moves : Moves perform clear shared locals frames goal next later)
    (accounted : AccountedFrames change frames (level locals) final) :
    AccountedFrames change goal (level later) final := by
  cases moves with
  | release => exact accounted
  | skip =>
      obtain ⟨_, same, rest⟩ := accounted
      exact same ▸ rest
  | op =>
      obtain ⟨_, changed, rest⟩ := accounted
      rw [performs _ _ _ _ changed]
      exact rest
  | seq =>
      obtain ⟨middle, ⟨between, first, second⟩, rest⟩ := accounted
      exact ⟨between, first, middle, second, rest⟩
  | left =>
      obtain ⟨middle, both, rest⟩ := accounted
      exact ⟨middle, both.1, rest⟩
  | right =>
      obtain ⟨middle, both, rest⟩ := accounted
      exact ⟨middle, both.2, rest⟩
  | pick =>
      obtain ⟨middle, every, rest⟩ := accounted
      exact ⟨middle, every _, rest⟩
  | leave =>
      obtain ⟨_, ⟨same, _⟩, rest⟩ := accounted
      exact same ▸ rest
  | again =>
      obtain ⟨middle, ⟨same, body⟩, rest⟩ := accounted
      exact ⟨_, body, middle, ⟨same, body⟩, rest⟩
  | acquire =>
      obtain ⟨middle, body, rest⟩ := accounted
      exact ⟨middle, body, rest⟩

theorem step_accounted [DecidableEq Lock]
    (performs : ∀ op shared locals goal, change op (level locals) goal →
      level (perform op shared locals).2 = goal)
    (stepped : (system perform).step turn self = some after)
    (accounted : self.Accounted change level final) : after.Accounted change level final := by
  obtain ⟨thread, frames, locals, found, threads, moves⟩ := step_moves stepped
  intro other member
  rw [threads] at member
  rcases mem_set_cases member with rfl | ⟨_, _, elsewhere⟩
  · exact moves.accounted performs (accounted thread (List.mem_of_getElem? found))
  · exact accounted other (List.mem_of_getElem? elsewhere)

/-- The step of a thread either leaves the data alone or is an operation at a level
that allows it. -/
theorem Accounted.operates [DecidableEq Lock] (accounted : self.Accounted change level final)
    (stepped : (system perform).step turn self = some after) :
    ∃ thread frames locals, self.threads[turn.thread]? = some thread ∧
      after.threads = self.threads.set turn.thread ⟨frames, locals⟩ ∧
      ((after.shared = self.shared ∧ locals = thread.locals) ∨
        ∃ op goal, change op (level thread.locals) goal ∧
          (after.shared, locals) = perform op self.shared thread.locals) := by
  obtain ⟨thread, frames, locals, found, threads, moves⟩ := step_moves stepped
  refine ⟨thread, frames, locals, found, threads, ?_⟩
  have mine := accounted thread (List.mem_of_getElem? found)
  generalize thread.frames = before at moves mine
  generalize thread.locals = known at moves mine ⊢
  generalize after.shared = shared at moves ⊢
  cases moves with
  | op =>
      obtain ⟨goal, changed, _⟩ := mine
      exact .inr ⟨_, goal, changed, rfl⟩
  | _ => exact .inl ⟨rfl, rfl⟩

end Threads

end ChattingProgram.Machine

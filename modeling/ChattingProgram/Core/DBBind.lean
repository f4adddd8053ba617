import Mathlib.Data.Vector.Basic
import ChattingProgram.Core.DBConnection
import ChattingProgram.Machine.Run

namespace ChattingProgram.Core

open ChattingProgram.Machine

/-! # Bindings of a statement

`DBBind` notes in two words of 64 bits which parameters and columns have been bound, and
`Validate` compares them with masks that the compiler computes with the arithmetic of
`int`.
-/

/-- `FullBits<C>::value` -/
def fullBits : Nat → BitVec 32
  | 0 => 0#32
  | 1 => 1#32
  | C + 2 => (1#32 <<< (C + 1)) ||| fullBits (C + 1)

def sqlNullData : Int := -1

def sqlNtsl : Int := -3

/-- What a parameter is bound to, as far as its length indicator depends on it. -/
inductive ParamValue where
  | scalar
  | text
  | binary (size : Nat)
  | nullBinary
deriving Repr, DecidableEq

/-- The indicator that `DBConnection::BindParam` leaves for a value. -/
def ParamValue.indicator (before : Int) : ParamValue → Int
  | .scalar => before
  | .text => sqlNtsl
  | .binary size => size
  | .nullBinary => sqlNullData

structure DBBind (paramCount columnCount : Nat) where
  paramIndex : Vector Int (max paramCount 1)
  columnIndex : Vector Int (max columnCount 1)
  paramFlag : BitVec 64
  columnFlag : BitVec 64

/-- A call on a `DBBind`.  Calls that bind come with what the driver returns. -/
inductive BindCall where
  | setParamNull (idx : Nat)
  | bindParam (idx : Nat) (value : ParamValue) (ret : SqlReturn) (diagnostics : Diagnostics)
  | bindCol (idx : Nat) (ret : SqlReturn) (diagnostics : Diagnostics)

namespace BindCall

/-- The parameter that a call takes care of. -/
def param : BindCall → Option Nat
  | .setParamNull idx | .bindParam idx _ _ _ => some idx
  | .bindCol _ _ _ => none

def column : BindCall → Option Nat
  | .bindCol idx _ _ => some idx
  | .setParamNull _ | .bindParam _ _ _ _ => none

/-- The index of a call lies below the count of its kind. -/
def Within (paramCount columnCount : Nat) (call : BindCall) : Prop :=
  (∀ idx ∈ call.param, idx < paramCount) ∧ ∀ idx ∈ call.column, idx < columnCount

/-- The driver reports success, if it is asked. -/
def Accepted : BindCall → Prop
  | .setParamNull _ => True
  | .bindParam _ _ ret _ | .bindCol _ ret _ => ret = sqlSuccess ∨ ret = sqlSuccessWithInfo

end BindCall

namespace DBBind

variable {paramCount columnCount : Nat}

def new : DBBind paramCount columnCount where
  paramIndex := Vector.replicate _ 0
  columnIndex := Vector.replicate _ 0
  paramFlag := 0
  columnFlag := 0

section Calls

variable (self : DBBind paramCount columnCount)

/-- The `int` is converted to `uint64_t` for the comparison. -/
def validate : Bool :=
  self.paramFlag == (fullBits paramCount).signExtend 64 && self.columnFlag ==
    (fullBits columnCount).signExtend 64

def setParamNull (idx : Nat) : DBBind paramCount columnCount :=
  { self with
    paramFlag := self.paramFlag ||| (1#64 <<< idx)
    paramIndex := self.paramIndex.setIfInBounds idx sqlNullData }

/-- The overloads of `BindParam`.  They do not look at what the connection returns, but
`none` is a connection that does not return. -/
def bindParam (turns idx : Nat) (value : ParamValue) (ret : SqlReturn) (diagnostics : Diagnostics) :
    Option (DBBind paramCount columnCount) :=
  (Core.bindParam turns diagnostics ret).map fun _ =>
    { self with
      paramIndex := self.paramIndex.setIfInBounds idx (value.indicator (self.paramIndex.getD idx 0))
      paramFlag := self.paramFlag ||| (1#64 <<< idx) }

/-- The overloads of `BindCol`. -/
def bindCol (turns idx : Nat) (ret : SqlReturn) (diagnostics : Diagnostics) :
    Option (DBBind paramCount columnCount) :=
  (Core.bindCol turns diagnostics ret).map fun _ =>
    { self with columnFlag := self.columnFlag ||| (1#64 <<< idx) }

end Calls

def call (turns : Nat) : BindCall → DBBind paramCount columnCount →
    Option (DBBind paramCount columnCount)
  | .setParamNull idx, self => some (self.setParamNull idx)
  | .bindParam idx value ret diagnostics, self => self.bindParam turns idx value ret diagnostics
  | .bindCol idx ret diagnostics, self => self.bindCol turns idx ret diagnostics

def system (turns : Nat) : System (DBBind paramCount columnCount) BindCall := ⟨call turns⟩

end DBBind

/-! ## Masks -/

theorem getLsbD_bit (inside : place < width) :
    (BitVec.ofNat width 1 <<< idx).getLsbD place = decide (idx = place) := by
  rw [← BitVec.twoPow_eq, BitVec.getLsbD_twoPow]
  by_cases same : idx = place
  · simp [same, inside]
  · simp [same]

theorem getLsbD_fullBits (inside : place < 32) :
    (fullBits count).getLsbD place = decide (place < count) := by
  induction count using fullBits.induct with
  | case1 => simp [fullBits]
  | case2 =>
      have bit : (1#32 <<< 0).getLsbD place = decide (0 = place) := getLsbD_bit inside
      rw [BitVec.shiftLeft_zero] at bit
      rw [fullBits, bit, decide_eq_decide]
      omega
  | case3 count ih =>
      rw [fullBits, BitVec.getLsbD_or, getLsbD_bit inside, ih, ← Bool.decide_or, decide_eq_decide]
      omega

/-- Below the sign bit the mask is converted as it is. -/
theorem getLsbD_mask (small : count ≤ 31) :
    ((fullBits count).signExtend 64).getLsbD place = decide (place < count) := by
  have positive : (fullBits count).msb = false := by
    rw [BitVec.msb_eq_getLsbD_last, getLsbD_fullBits (by decide), decide_eq_false_iff_not]
    omega
  rw [BitVec.signExtend_eq_setWidth_of_msb_false positive, BitVec.getLsbD_setWidth]
  by_cases inside : place < 32
  · rw [getLsbD_fullBits inside]
    simp only [Bool.and_eq_right_iff_imp, decide_eq_true_eq]
    omega
  · rw [BitVec.getLsbD_of_ge _ _ (by omega), Bool.and_false, eq_comm, decide_eq_false_iff_not]
    omega

/-- A word whose bits all lie below the count equals the mask when all of them are set. -/
theorem eq_mask_iff {flag : BitVec 64} (small : count ≤ 31)
    (below : ∀ place, flag.getLsbD place = true → place < count) :
    flag = (fullBits count).signExtend 64 ↔ ∀ place < count, flag.getLsbD place = true := by
  constructor
  · rintro same place inside
    rw [same, getLsbD_mask small, decide_eq_true_eq]
    exact inside
  · intro full
    apply BitVec.eq_of_getLsbD_eq
    intro place _
    rw [getLsbD_mask small, Bool.eq_iff_iff, decide_eq_true_eq]
    exact ⟨below place, full place⟩

namespace DBBind

variable {paramCount columnCount turns : Nat} {self after : DBBind paramCount columnCount}

/-- A call sets the bits of its indices and no others. -/
theorem call_flags {call : BindCall} (called : self.call turns call = some after)
    (inside : place < 64) :
    (after.paramFlag.getLsbD place = true ↔ self.paramFlag.getLsbD place = true ∨
      call.param = some place) ∧
      (after.columnFlag.getLsbD place = true ↔ self.columnFlag.getLsbD place = true ∨
        call.column = some place) := by
  cases call with
  | setParamNull idx =>
      cases called
      simp [setParamNull, BindCall.param, BindCall.column, getLsbD_bit inside]
  | bindParam idx value ret diagnostics =>
      obtain ⟨result, _, rfl⟩ := Option.map_eq_some_iff.mp called
      simp [BindCall.param, BindCall.column, getLsbD_bit inside]
  | bindCol idx ret diagnostics =>
      obtain ⟨result, _, rfl⟩ := Option.map_eq_some_iff.mp called
      simp [BindCall.param, BindCall.column, getLsbD_bit inside]

theorem run_flags {calls : List BindCall} (ran : (system turns).run calls self = some after)
    (inside : place < 64) :
    (after.paramFlag.getLsbD place = true ↔
      self.paramFlag.getLsbD place = true ∨ ∃ call ∈ calls, call.param = some place) ∧
      (after.columnFlag.getLsbD place = true ↔
        self.columnFlag.getLsbD place = true ∨ ∃ call ∈ calls, call.column = some place) := by
  induction calls generalizing self with
  | nil =>
      cases ran
      simp
  | cons call rest ih =>
      obtain ⟨next, called, remaining⟩ := System.run_cons_some.mp ran
      obtain ⟨params, columns⟩ := call_flags called inside
      obtain ⟨laterParams, laterColumns⟩ := ih remaining
      constructor
      · rw [laterParams, params, or_assoc, List.exists_mem_cons_iff]
      · rw [laterColumns, columns, or_assoc, List.exists_mem_cons_iff]

/-- Calls that the driver accepts all return. -/
theorem run_returns (accepted : ∀ call ∈ calls, call.Accepted) :
    ∃ final, (system turns).run calls self = some final := by
  induction calls generalizing self with
  | nil => exact ⟨self, rfl⟩
  | cons call rest ih =>
      rw [List.forall_mem_cons] at accepted
      have returns : ∃ next, self.call turns call = some next := by
        cases call with
        | setParamNull idx => exact ⟨_, rfl⟩
        | bindParam idx value ret diagnostics =>
            exact ⟨_, Option.map_eq_some_iff.mpr ⟨.returns true, bound_accepted accepted.1, rfl⟩⟩
        | bindCol idx ret diagnostics =>
            exact ⟨_, Option.map_eq_some_iff.mpr ⟨.returns true, bound_accepted accepted.1, rfl⟩⟩
      obtain ⟨next, called⟩ := returns
      obtain ⟨final, ran⟩ := ih accepted.2
      exact ⟨final, System.run_cons_some.mpr ⟨next, called, ran⟩⟩

theorem run_flags_within (within : ∀ call ∈ calls, call.Within paramCount columnCount)
    (ran : (system turns).run calls new = some self) :
    (∀ place, self.paramFlag.getLsbD place = true → place < paramCount) ∧
      ∀ place, self.columnFlag.getLsbD place = true → place < columnCount := by
  constructor
  · intro place noted
    obtain ⟨call, member, idx⟩ := ((run_flags ran (BitVec.lt_of_getLsbD noted)).1.mp
      noted).resolve_left (by simp [new])
    exact (within call member).1 place idx
  · intro place noted
    obtain ⟨call, member, idx⟩ := ((run_flags ran (BitVec.lt_of_getLsbD noted)).2.mp
      noted).resolve_left (by simp [new])
    exact (within call member).2 place idx

/-- `Validate` finds every index that no call has named, in whatever order and how often
the others were named. -/
theorem validate_iff {calls : List BindCall} (params : paramCount ≤ 31)
    (columns : columnCount ≤ 31) (within : ∀ call ∈ calls, call.Within paramCount columnCount)
    (ran : (system turns).run calls new = some self) :
    self.validate = true ↔
      (∀ idx < paramCount, ∃ call ∈ calls, call.param = some idx) ∧
        ∀ idx < columnCount, ∃ call ∈ calls, call.column = some idx := by
  obtain ⟨paramsBelow, columnsBelow⟩ := run_flags_within within ran
  have unnoted : ∀ place, ¬ (0 : BitVec 64).getLsbD place = true := by simp
  rw [validate, Bool.and_eq_true, beq_iff_eq, beq_iff_eq, eq_mask_iff params paramsBelow,
    eq_mask_iff columns columnsBelow]
  refine and_congr (forall₂_congr ?_) (forall₂_congr ?_)
  · intro idx inside
    rw [(run_flags ran (by omega)).1, new, or_iff_right (unnoted idx)]
  · intro idx inside
    rw [(run_flags ran (by omega)).2, new, or_iff_right (unnoted idx)]

/-- Two parameters, one of them bound twice, and one column. -/
def sampleCalls (diagnostics : Diagnostics) : List BindCall :=
  [.bindParam 1 .text sqlSuccess diagnostics, .bindCol 0 sqlSuccessWithInfo diagnostics,
    .setParamNull 0, .bindParam 1 .scalar sqlSuccess diagnostics]

theorem validate_iff_repeated :
    let calls := sampleCalls (oneRecord [])
    ∃ bind : DBBind 2 1, (system 0).run calls new = some bind ∧
      (bind.validate = true ↔
        (∀ idx < 2, ∃ call ∈ calls, call.param = some idx) ∧ ∀ idx < 1, ∃ call ∈ calls,
            call.column = some idx) := by
  intro calls
  obtain ⟨bind, ran⟩ : ∃ bind : DBBind 2 1, (system 0).run calls new = some bind :=
    run_returns (by simp [calls, sampleCalls, BindCall.Accepted])
  refine ⟨bind, ran, validate_iff (by decide) (by decide) ?_ ran⟩
  simp [calls, sampleCalls, BindCall.Within, BindCall.param, BindCall.column]

end DBBind

end ChattingProgram.Core

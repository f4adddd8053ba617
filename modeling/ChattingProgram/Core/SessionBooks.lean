import ChattingProgram.Core.SessionLife

namespace ChattingProgram.Core

open ChattingProgram.Machine

/-! # The books of a session

Three tokens go through the life of a session.  The one of the connection is in
`_connected`, then with the thread that has exchanged it, the call of
`DisconnectEx` and `ProcessDisconnect`.  The one of the receive is with
`ProcessConnect`, with the outstanding `WSARecv` or in `ProcessRecv`.  The one of
the entry in `_sessions` comes with `AddSession` and goes with `ReleaseSession`.
-/

namespace SessionLife

/-- What a thread is doing for a session. -/
inductive Stage where
  | away
  | opening
  | adding
  | inserting
  | receiving
  | sending
  | leaving
  | closing
  | ending
  | erasing
  | counting
deriving Repr, DecidableEq

def stage : LifePc → Stage
  | .returned => .away
  | .connect => .opening
  | .addCount => .adding
  | .addInsert => .inserting
  | .registerRecv | .wsaRecv | .recv _ | .onWrite | .onRecv | .onRead => .receiving
  | .registerSend | .wsaSend | .processSend _ _ => .sending
  | .handleError errorCode => if SendState.disconnects errorCode then .leaving else .sending
  | .disconnect => .leaving
  | .registerDisconnect => .closing
  | .onDisconnected => .ending
  | .releaseErase => .erasing
  | .releaseCount => .counting

/-- What happens to a session when a thread goes from a stage to another; `present`
tells that the session is in `_sessions`.  The first index is false for the steps
after which nothing watches over the session: a failed connect that is taken for a
successful one, and a receive or a disconnect that fails to start. -/
inductive Act : Bool → Stage → Stage → SessionLife → SessionLife → Bool → Bool → Prop where
  | register {life present} : life.attempts = 0 →
      Act true .away .away life { life with attempts := 1, connecting := 1 } present present
  | connected {life present} (success : Bool) : life.connecting ≠ 0 →
      Act success .away .opening life
      { life with
        connecting := life.connecting - 1,
        established := life.established + success.toNat } present present
  | unaccepted {life present} (success : Bool) : life.connecting ≠ 0 → Act true .away .away life
      { life with
        connecting := life.connecting - 1,
        established := life.established + success.toNat } present present
  | connect {life present} : Act true .opening .adding life
      { life with connected := true, links := life.links + 1 } present present
  | addCount {life present} : Act true .adding .inserting life life present present
  | addInsert {life present} :
      Act true .inserting .receiving life { life with additions := life.additions + 1 } present true
  | receive {life present} : Act true .receiving .receiving life life present present
  | recvQuit {life present} : life.connected = false →
    Act true .receiving .away life life present present
  | recvPost {life present} :
      Act true .receiving .away life { life with receives := life.receives + 1 } present present
  | recvComplete {life present} : life.receives ≠ 0 →
      Act true .away .receiving life { life with receives := life.receives - 1 } present present
  | recvDrop {life present} : Act true .receiving .leaving life life present present
  | recvLost {life present} : Act false .receiving .sending life life present present
  | call {life present} : life.additions ≠ 0 → Act true .away .sending life life present present
  | send {life present} : Act true .sending .sending life life present present
  | sendQuit {life present} : Act true .sending .away life life present present
  | sendPost {life present} : Act true .sending .away life { life with
    sends := life.sends + 1 } present present
  | sendComplete {life present} : life.sends ≠ 0 →
      Act true .away .sending life { life with sends := life.sends - 1 } present present
  | sendDrop {life present} : Act true .sending .leaving life life present present
  | handle {life present} : Act true .leaving .leaving life life present present
  | exchange {life present} : life.connected = true →
      Act true .leaving .closing life { life with connected := false } present present
  | already {life present} : life.connected = false →
    Act true .leaving .away life life present present
  | issue {life present} : Act true .closing .away life
      { life with calls := life.calls + 1, disconnects := life.disconnects + 1 } present present
  | issueFails {life present} : Act false .closing .away life { life with
    calls := life.calls + 1 } present present
  | disconnectComplete {life present} : life.disconnects ≠ 0 →
      Act true .away .ending life { life with disconnects := life.disconnects - 1 } present present
  | onDisconnected {life present} : Act true .ending .erasing life { life with
    ends := life.ends + 1 } present present
  | erase {life} : Act true .erasing .counting life life true false
  | count {life present} : Act true .counting .away life life present present

/-- One thread has gone from a stage to another. -/
def Shifts (source target : Stage) (before after : Stage → Nat) : Prop :=
  ∀ stage, stage ≠ .away → after stage + (if source = stage then 1 else 0) =
    before stage + (if target = stage then 1 else 0)

structure Sound (life : SessionLife) (present : Bool) (staff : Stage → Nat) : Prop where
  once : life.attempts ≤ 1
  opened : life.connecting + staff .opening + life.links ≤ life.attempts
  added : life.additions + staff .adding + staff .inserting = life.links
  closed : life.connected.toNat + staff .closing + life.calls = life.links
  ended : life.disconnects + staff .ending + life.ends ≤ life.calls
  listed : present.toNat + life.ends = life.additions + staff .erasing
  erased : staff .erasing ≤ life.ends
  received : life.receives + staff .receiving ≤ life.additions
  known : life.additions = 0 → staff .sending + staff .leaving + staff .closing +
    life.sends + life.calls = 0

section Sound

variable {orderly : Bool} {source target : Stage} {life next : SessionLife} {present later : Bool}
  {before after : Stage → Nat} (act : Act orderly source target life next present later)
  (shifts : Shifts source target before after) (sound : Sound life present before)

include act sound

theorem once_act : next.attempts ≤ 1 := by
  cases act with
  | register => exact Nat.le_refl 1
  | _ => exact sound.once

include shifts

theorem opened_act : next.connecting + after .opening + next.links ≤ next.attempts := by
  have opening := shifts .opening (by decide)
  have opened := sound.opened
  cases act <;> simp only [reduceCtorEq, if_true, if_false, Nat.add_zero] at opening ⊢ <;> omega

theorem added_act : next.additions + after .adding + after .inserting = next.links := by
  have adding := shifts .adding (by decide)
  have inserting := shifts .inserting (by decide)
  have added := sound.added
  cases act <;> simp only [reduceCtorEq, if_true, if_false, Nat.add_zero] at adding inserting ⊢ <;> omega

theorem closed_act : next.connected.toNat + after .closing + next.calls = next.links := by
  have closing := shifts .closing (by decide)
  have opened := sound.opened
  have opening := shifts .opening (by decide)
  have once := sound.once
  have closed := sound.closed
  cases act with
  | exchange connected =>
      rw [connected] at closed
      simp only [reduceCtorEq, if_true, if_false, Nat.add_zero, Bool.toNat_true, Bool.toNat_false]
        at closing closed ⊢
      omega
  | connect =>
      simp only [reduceCtorEq, if_true, if_false, Nat.add_zero, Bool.toNat_true] at closing opening ⊢
      omega
  | _ =>
      simp only [reduceCtorEq, if_true, if_false, Nat.add_zero] at closing ⊢
      omega

theorem ended_act : next.disconnects + after .ending + next.ends ≤ next.calls := by
  have ending := shifts .ending (by decide)
  have ended := sound.ended
  cases act <;> simp only [reduceCtorEq, if_true, if_false, Nat.add_zero] at ending ⊢ <;> omega

theorem listed_act : later.toNat + next.ends = next.additions + after .erasing := by
  have erasing := shifts .erasing (by decide)
  have listed := sound.listed
  cases act with
  | addInsert =>
      -- a session is added once: it was not in the set
      have inserting := shifts .inserting (by decide)
      have added := sound.added
      have opened := sound.opened
      have once := sound.once
      have erased := sound.erased
      simp only [reduceCtorEq, if_true, if_false, Nat.add_zero, Bool.toNat_true] at erasing inserting ⊢
      omega
  | erase =>
      simp only [reduceCtorEq, if_true, if_false, Nat.add_zero, Bool.toNat_true, Bool.toNat_false]
        at erasing listed ⊢
      omega
  | _ =>
      simp only [reduceCtorEq, if_true, if_false, Nat.add_zero] at erasing ⊢
      omega

theorem erased_act : after .erasing ≤ next.ends := by
  have erasing := shifts .erasing (by decide)
  have erased := sound.erased
  cases act <;> simp only [reduceCtorEq, if_true, if_false, Nat.add_zero] at erasing ⊢ <;> omega

theorem received_act : next.receives + after .receiving ≤ next.additions := by
  have receiving := shifts .receiving (by decide)
  have received := sound.received
  cases act <;> simp only [reduceCtorEq, if_true, if_false, Nat.add_zero] at receiving ⊢ <;> omega

theorem known_act (unadded : next.additions = 0) :
    after .sending + after .leaving + after .closing + next.sends + next.calls = 0 := by
  have sending := shifts .sending (by decide)
  have leaving := shifts .leaving (by decide)
  have closing := shifts .closing (by decide)
  have receiving := shifts .receiving (by decide)
  have received := sound.received
  have known := sound.known
  cases act <;>
    simp only [reduceCtorEq, if_true, if_false, Nat.add_zero] at sending leaving closing receiving unadded ⊢ <;> omega

theorem sound_act : Sound next later after where
  once := once_act act sound
  opened := opened_act act shifts sound
  added := added_act act shifts sound
  closed := closed_act act shifts sound
  ended := ended_act act shifts sound
  listed := listed_act act shifts sound
  erased := erased_act act shifts sound
  received := received_act act shifts sound
  known := known_act act shifts sound

end Sound

/-- As long as every step is orderly, a link comes from a connection that was made,
every `DisconnectEx` comes to its end, and a connected session has a receive under
way or a thread that is about to disconnect it. -/
structure Watched (life : SessionLife) (staff : Stage → Nat) : Prop where
  established : staff .opening + life.links ≤ life.established
  issued : life.calls ≤ life.disconnects + staff .ending + life.ends
  receives : life.connected = true → life.additions ≠ 0 →
    0 < life.receives + staff .receiving + staff .leaving

section Watched

variable {source target : Stage} {life next : SessionLife} {present later : Bool}
  {before after : Stage → Nat}
  (act : Act true source target life next present later)
    (shifts : Shifts source target before after)
  (watched : Watched life before)

include act shifts watched

theorem established_act : after .opening + next.links ≤ next.established := by
  have opening := shifts .opening (by decide)
  have established := watched.established
  cases act <;> simp only [Bool.toNat_true, reduceCtorEq, if_true, if_false, Nat.add_zero] at opening ⊢ <;> omega

theorem issued_act : next.calls ≤ next.disconnects + after .ending + next.ends := by
  have ending := shifts .ending (by decide)
  have issued := watched.issued
  cases act <;> simp only [reduceCtorEq, if_true, if_false, Nat.add_zero] at ending ⊢ <;> omega

theorem receives_act (sound : Sound life present before) (connected : next.connected = true)
    (added : next.additions ≠ 0) : 0 < next.receives + after .receiving + after .leaving := by
  have receiving := shifts .receiving (by decide)
  have leaving := shifts .leaving (by decide)
  cases act with
  | connect =>
      -- the first connection of a session that nobody has added
      have opening := shifts .opening (by decide)
      have earlier := sound.added
      have opened := sound.opened
      have once := sound.once
      simp only [if_true, reduceCtorEq, if_false, Nat.add_zero] at opening added
      omega
  | recvQuit quit | already quit => cases connected.symm.trans quit
  | exchange => contradiction
  | addInsert =>
      simp only [reduceCtorEq, if_true, if_false, Nat.add_zero] at receiving ⊢
      omega
  | _ =>
      have flow := watched.receives connected added
      simp only [reduceCtorEq, if_true, if_false, Nat.add_zero] at receiving leaving ⊢
      omega

theorem watched_act (sound : Sound life present before) : Watched next after where
  established := established_act act shifts watched
  issued := issued_act act shifts watched
  receives := receives_act act shifts watched sound

end Watched

end SessionLife

end ChattingProgram.Core

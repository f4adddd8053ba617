import Mathlib.Data.List.Basic
import ChattingProgram.Machine.Pool

namespace ChattingProgram.Server

open ChattingProgram.Machine

/-! # Who is logged in as whom

The login protocol by itself: accounts that are online or not, sessions with the
id they last logged in with, and the logins and logouts in progress.  A login
marks the account and then sets the id of its session; a logout reads the id of
its session and then unmarks that account.  An account is identified by the key
of its id.
-/

structure AuthAccount where
  id : String
  isOnline : Bool

structure AuthSession where
  id : String
  connected : Bool
  disconnected : Bool

/-- Where a process stands between the marks it reads and writes. -/
inductive AuthStage where
  | idle
  | selected (id : String)
  | updated (id : String)
  | leaving
  | left (id : String)

structure AuthProcess where
  session : Nat
  stage : AuthStage

structure Auth where
  accounts : List AuthAccount
  sessions : List AuthSession
  processes : List AuthProcess
  lock : Bool

namespace Auth

def mark (collate : String → String) (accounts : List AuthAccount) (id : String) (isOnline : Bool) :
    List AuthAccount :=
  accounts.map fun account =>
    if collate account.id = collate id then { account with isOnline := isOnline } else account

/-- `actor` is the process that makes the move. -/
inductive Move (collate : String → String) (actor : Option Nat) : Auth → Auth → Prop where
  | stutter (auth : Auth) : Move collate actor auth auth
  | connect (auth : Auth) :
      Move collate actor auth { auth with sessions := auth.sessions ++ [⟨"", true, false⟩] }
  | request (auth : Auth) (session : Nat) :
      Move collate actor auth { auth with processes := auth.processes ++ [⟨session, .idle⟩] }
  | disconnect (auth : Auth) {session : Nat} {current : AuthSession} :
      auth.sessions[session]? = some current → current.connected = true →
      Move collate actor auth { auth with
        sessions := auth.sessions.set session { current with connected := false }
        processes := auth.processes ++ [⟨session, .leaving⟩] }
  | register (auth : Auth) {id : String} :
      (∀ account ∈ auth.accounts, collate account.id ≠ collate id) →
      Move collate actor auth { auth with accounts := auth.accounts ++ [⟨id, false⟩] }
  | select (auth : Auth) {index session : Nat} {id : String} {account : AuthAccount} :
      actor = some index → auth.processes[index]? = some ⟨session, .idle⟩ → auth.lock = false →
      account ∈ auth.accounts → collate account.id = collate id → account.isOnline = false →
      Move collate actor auth { auth with
        lock := true, processes := auth.processes.set index ⟨session, .selected id⟩ }
  | update (auth : Auth) {index session : Nat} {id : String} :
      actor = some index → auth.processes[index]? = some ⟨session, .selected id⟩ →
      Move collate actor auth { auth with
        accounts := mark collate auth.accounts id true
        processes := auth.processes.set index ⟨session, .updated id⟩ }
  | setId (auth : Auth) {index session : Nat} {id : String} :
      actor = some index → auth.processes[index]? = some ⟨session, .updated id⟩ →
      Move collate actor auth { auth with
        lock := false
        sessions := auth.sessions.modify session fun current => { current with id := id }
        processes := auth.processes.set index ⟨session, .idle⟩ }
  | readId (auth : Auth) {index session : Nat} {id : String} :
      actor = some index → auth.processes[index]? = some ⟨session, .leaving⟩ →
      (∀ current, auth.sessions[session]? = some current → current.id = id) →
      Move collate actor auth { auth with
        processes := auth.processes.set index ⟨session, .left id⟩ }
  | logout (auth : Auth) {index session : Nat} {id : String} :
      actor = some index → auth.processes[index]? = some ⟨session, .left id⟩ →
      Move collate actor auth { auth with
        accounts := mark collate auth.accounts id false
        sessions := auth.sessions.modify session fun current =>
        { current with disconnected := true }
        processes := auth.processes.set index ⟨session, .idle⟩ }

/-! ## Exclusion -/

def Leaves (session : Nat) (process : AuthProcess) : Prop :=
  process.session = session ∧ (process.stage = .leaving ∨ ∃ id, process.stage = .left id)

/-- `OnDisconnected` runs once for every session. -/
def OneLeaver (processes : List AuthProcess) : Prop :=
  ∀ (session first second : Nat) (left right : AuthProcess), processes[first]? = some left →
    processes[second]? = some right → Leaves session left → Leaves session right → first = second

/-- A process under the login lock. -/
def locks (process : AuthProcess) : Nat :=
  match process.stage with
  | .selected _ | .updated _ => 1
  | _ => 0

/-- Who may still unmark an account, or is about to be able to. -/
inductive Claimant where
  | session (index : Nat)
  | login (index : Nat)

def Claims (collate : String → String) (auth : Auth) (key : String) : Claimant → Prop
  | .session index =>
      ∃ current, auth.sessions[index]? = some current ∧ current.disconnected = false ∧
          (collate current.id = key ∨
            ∃ process ∈ auth.processes, process.session = index ∧ ∃ id, process.stage = .left id ∧
            collate id = key)
  | .login index =>
      ∃ session id, auth.processes[index]? = some ⟨session, .updated id⟩ ∧ collate id = key

def Online (collate : String → String) (accounts : List AuthAccount) (key : String) : Prop :=
  (∃ account ∈ accounts, collate account.id = key) ∧
    ∀ account ∈ accounts, collate account.id = key → account.isOnline = true

structure Exclusive (collate : String → String) (auth : Auth) : Prop where
  single : ∀ {key : String} {first second : Claimant}, key ≠ collate "" →
    Claims collate auth key first → Claims collate auth key second → first = second
  online : ∀ {key : String} {claimant : Claimant}, key ≠ collate "" →
    Claims collate auth key claimant → Online collate auth.accounts key
  selected : ∀ process ∈ auth.processes, ∀ id, process.stage = .selected id →
    ∃ account ∈ auth.accounts, collate account.id = collate id ∧ account.isOnline = false
  locked : total locks auth.processes = if auth.lock then 1 else 0
  leaver : OneLeaver auth.processes
  lively : ∀ process ∈ auth.processes, Leaves process.session process →
    ∃ current, auth.sessions[process.session]? = some current ∧ current.connected = false ∧
      current.disconnected = false
  unended : ∀ current ∈ auth.sessions, current.connected = true → current.disconnected = false

section Exclusive

variable {collate : String → String} {auth after : Auth}

theorem online_mark {accounts : List AuthAccount} {id : String}
    (online : Online collate accounts key) (other : key ≠ collate id) :
    Online collate (mark collate accounts id isOnline) key := by
  obtain ⟨⟨account, member, named⟩, all⟩ := online
  have kept : ∀ {account : AuthAccount}, collate account.id = key →
      (if collate account.id = collate id then { account with isOnline := isOnline } else account) =
        account := by
    intro account same
    rw [if_neg (by rw [same]; exact other)]
  constructor
  · exact ⟨account, List.mem_map.mpr ⟨account, member, kept named⟩, named⟩
  · intro marked place same
    obtain ⟨account, member, rfl⟩ := List.mem_map.mp place
    split at same
    · rename_i named
      exact absurd (same.symm.trans named) other
    · rename_i unnamed
      rw [if_neg unnamed]
      exact all account member same

theorem online_marked {accounts : List AuthAccount} {id : String}
    (present : ∃ account ∈ accounts, collate account.id = collate id) :
    Online collate (mark collate accounts id true) (collate id) := by
  obtain ⟨account, member, named⟩ := present
  constructor
  · refine ⟨{ account with isOnline := true }, List.mem_map.mpr ⟨account, member, ?_⟩, named⟩
    rw [if_pos named]
  · intro marked place same
    obtain ⟨account, member, rfl⟩ := List.mem_map.mp place
    split at same
    · rw [if_pos (by assumption)]
    · contradiction

/-- Most moves make no new claim. -/
theorem Exclusive.of_claims (before : Exclusive collate auth)
    (claims : ∀ {key claimant}, key ≠ collate "" → Claims collate after key claimant →
      Claims collate auth key claimant)
    (online : ∀ {key claimant}, key ≠ collate "" → Claims collate after key claimant →
      Online collate auth.accounts key → Online collate after.accounts key)
    (selected : ∀ process ∈ after.processes, ∀ id, process.stage = .selected id →
      ∃ account ∈ after.accounts, collate account.id = collate id ∧ account.isOnline = false)
    (locked : total locks after.processes = if after.lock then 1 else 0)
    (leaver : OneLeaver after.processes)
    (lively : ∀ process ∈ after.processes, Leaves process.session process →
      ∃ current, after.sessions[process.session]? = some current ∧ current.connected = false ∧
        current.disconnected = false)
    (unended : ∀ current ∈ after.sessions, current.connected = true →
      current.disconnected = false) :
    Exclusive collate after where
  single := by
    intro key first second nonempty claimsFirst claimsSecond
    exact before.single nonempty (claims nonempty claimsFirst) (claims nonempty claimsSecond)
  online := by
    intro key claimant nonempty claimed
    exact online nonempty claimed (before.online nonempty (claims nonempty claimed))
  selected := selected
  locked := locked
  leaver := leaver
  lively := lively
  unended := unended

/-- Claims are made by ids of sessions and by processes that hold an id. -/
theorem claims_of_frame
    (sessions : ∀ {index : Nat} {current : AuthSession}, after.sessions[index]? = some current →
      current.disconnected = false →
      ∃ prior, auth.sessions[index]? = some prior ∧ prior.disconnected = false ∧
        prior.id = current.id)
    (updated : ∀ {index session : Nat} {id : String}, after.processes[index]? =
      some ⟨session, .updated id⟩ →
      auth.processes[index]? = some ⟨session, .updated id⟩)
    (left : ∀ {process : AuthProcess} {id : String}, process ∈ after.processes →
      process.stage = .left id →
      process ∈ auth.processes) (claimed : Claims collate after key claimant) :
    Claims collate auth key claimant := by
  cases claimant with
  | login index =>
      obtain ⟨session, id, found, named⟩ := claimed
      exact ⟨session, id, updated found, named⟩
  | session index =>
      obtain ⟨current, found, live, names⟩ := claimed
      obtain ⟨prior, priorFound, priorLive, sameId⟩ := sessions found live
      refine ⟨prior, priorFound, priorLive, ?_⟩
      rw [sameId]
      refine names.imp_right ?_
      rintro ⟨process, member, owner, id, holds, named⟩
      exact ⟨process, left member holds, owner, id, holds, named⟩

/-- A process under the lock is alone there. -/
theorem Exclusive.alone (before : Exclusive collate auth) {place : Nat}
    (found : auth.processes[index]? = some holder) (holds : locks holder = 1)
    (placed : auth.processes[place]? = some other) (different : index ≠ place) :
    locks other = 0 := by
  have both := weight_add_le_total locks found placed different
  have single := before.locked
  split at single <;> omega

theorem OneLeaver.set {processes : List AuthProcess} (unique : OneLeaver processes)
    (found : processes[index]? = some process)
    (still : ∀ session, Leaves session next → Leaves session process) :
    OneLeaver (processes.set index next) := by
  have earlier : ∀ {session place : Nat} {other : AuthProcess},
      (processes.set index next)[place]? = some other → Leaves session other →
      ∃ before, processes[place]? = some before ∧ Leaves session before := by
    intro session place other placed leaves
    rcases getElem?_set_cases placed with ⟨rfl, rfl⟩ | ⟨_, before⟩
    · exact ⟨process, found, still session leaves⟩
    · exact ⟨other, before, leaves⟩
  intro session first second left right foundLeft foundRight leavesLeft leavesRight
  obtain ⟨before, beforeFound, beforeLeaves⟩ := earlier foundLeft leavesLeft
  obtain ⟨other, otherFound, otherLeaves⟩ := earlier foundRight leavesRight
  exact unique session first second before other beforeFound otherFound beforeLeaves otherLeaves

theorem OneLeaver.concat {processes : List AuthProcess} (unique : OneLeaver processes)
    (first : ∀ process ∈ processes, ∀ session, Leaves session process → ¬ Leaves session next) :
    OneLeaver (processes ++ [next]) := by
  intro session one other left right foundLeft foundRight leavesLeft leavesRight
  rcases getElem?_concat_cases foundLeft with oldLeft | ⟨lastLeft, rfl⟩ <;>
    rcases getElem?_concat_cases foundRight with oldRight | ⟨lastRight, rfl⟩
  · exact unique session one other left right oldLeft oldRight leavesLeft leavesRight
  · exact absurd leavesRight (first left (List.mem_of_getElem? oldLeft) session leavesLeft)
  · exact absurd leavesLeft (first right (List.mem_of_getElem? oldRight) session leavesRight)
  · omega

theorem Exclusive.connect (before : Exclusive collate auth) :
    Exclusive collate { auth with sessions := auth.sessions ++ [⟨"", true, false⟩] } := by
  refine before.of_claims ?_ (fun _ _ online => online) before.selected before.locked
    before.leaver ?_ ?_
  · intro key claimant nonempty claimed
    cases claimant with
    | login index => exact claimed
    | session index =>
        obtain ⟨current, found, live, names⟩ := claimed
        rcases getElem?_concat_cases found with old | ⟨last, rfl⟩
        · exact ⟨current, old, live, names⟩
        · rcases names with named | ⟨process, member, owner, id, left, _⟩
          · exact absurd named.symm nonempty
          · obtain ⟨earlier, old, _⟩ := before.lively process member ⟨rfl, .inr ⟨id, left⟩⟩
            exact absurd (List.getElem?_eq_some_iff.mp old).1 (by omega)
  · intro process member leaves
    obtain ⟨current, found, rest⟩ := before.lively process member leaves
    exact ⟨current, (List.getElem?_append_left (List.getElem?_eq_some_iff.mp found).1).trans found,
      rest⟩
  · intro current member
    rcases List.mem_append.mp member with old | new
    · exact before.unended current old
    · rw [List.mem_singleton.mp new]
      exact fun _ => rfl

theorem mem_concat_stage {processes : List AuthProcess} (member : process ∈ processes ++ [next])
    (other : process.stage ≠ next.stage) : process ∈ processes := by
  rcases List.mem_append.mp member with old | new
  · exact old
  · rw [List.mem_singleton.mp new] at other
    exact absurd rfl other

theorem mem_set_stage {processes : List AuthProcess} (member : process ∈ processes.set index next)
    (other : process.stage ≠ next.stage) : process ∈ processes := by
  rcases List.mem_or_eq_of_mem_set member with old | rfl
  · exact old
  · exact absurd rfl other

theorem Exclusive.request (before : Exclusive collate auth) (session : Nat) :
    Exclusive collate { auth with processes := auth.processes ++ [⟨session, .idle⟩] } := by
  refine before.of_claims ?_ (fun _ _ online => online) ?_ ?_
    (before.leaver.concat (by simp [Leaves])) ?_ before.unended
  · intro key claimant _
    refine claims_of_frame ?_ ?_ ?_
    · intro place current placed live
      exact ⟨current, placed, live, rfl⟩
    · intro index owner id found
      rcases getElem?_concat_cases found with old | ⟨_, new⟩
      · exact old
      · simp at new
    · intro process id member holds
      exact mem_concat_stage member (by simp [holds])
  · intro process member id selected
    exact before.selected process (mem_concat_stage member (by simp [selected])) id selected
  · simpa [locks] using before.locked
  · intro process member leaves
    refine before.lively process (mem_concat_stage member ?_) leaves
    rintro idle
    simp [Leaves, idle] at leaves

theorem Exclusive.disconnect (before : Exclusive collate auth)
    (found : auth.sessions[session]? = some current) (connected : current.connected = true) :
    Exclusive collate { auth with
      sessions := auth.sessions.set session { current with connected := false }
      processes := auth.processes ++ [⟨session, .leaving⟩] } := by
  have newcomer : ∀ process ∈ auth.processes, ¬ Leaves session process := by
    rintro process member ⟨rfl, leaves⟩
    obtain ⟨other, otherFound, off, _⟩ := before.lively process member ⟨rfl, leaves⟩
    rw [found, Option.some.injEq] at otherFound
    subst otherFound
    simp [connected] at off
  refine before.of_claims ?_ (fun _ _ online => online) ?_ ?_ ?_ ?_ ?_
  · intro key claimant _
    refine claims_of_frame ?_ ?_ ?_
    · intro index state placed live
      rcases getElem?_set_cases placed with ⟨rfl, rfl⟩ | ⟨_, old⟩
      · exact ⟨current, found, live, rfl⟩
      · exact ⟨state, old, live, rfl⟩
    · intro index owner id placed
      rcases getElem?_concat_cases placed with old | ⟨_, new⟩
      · exact old
      · simp at new
    · intro process id member holds
      exact mem_concat_stage member (by simp [holds])
  · intro process member id selected
    exact before.selected process (mem_concat_stage member (by simp [selected])) id selected
  · simpa [locks] using before.locked
  · refine before.leaver.concat ?_
    rintro process member owner leaves ⟨rfl, _⟩
    exact newcomer process member leaves
  · intro process member leaves
    rcases List.mem_append.mp member with old | new
    · obtain ⟨other, otherFound, rest⟩ := before.lively process old leaves
      have elsewhere : session ≠ process.session := by
        rintro rfl
        exact newcomer process old leaves
      exact ⟨other, (List.getElem?_set_ne elsewhere).trans otherFound, rest⟩
    · rw [List.mem_singleton.mp new]
      exact ⟨_, List.getElem?_set_self (List.getElem?_eq_some_iff.mp found).1, rfl,
        before.unended current (List.mem_of_getElem? found) connected⟩
  · intro state member on
    rcases List.mem_or_eq_of_mem_set member with old | rfl
    · exact before.unended state old on
    · simp at on

theorem Exclusive.register (before : Exclusive collate auth) {id : String}
    (unused : ∀ account ∈ auth.accounts, collate account.id ≠ collate id) :
    Exclusive collate { auth with accounts := auth.accounts ++ [⟨id, false⟩] } := by
  refine before.of_claims (fun _ claimed => claimed) ?_ ?_ before.locked before.leaver before.lively
    before.unended
  · rintro key claimant _ _ ⟨⟨account, member, named⟩, all⟩
    refine ⟨⟨account, List.mem_append_left _ member, named⟩, ?_⟩
    intro other place same
    rcases List.mem_append.mp place with old | new
    · exact all other old same
    · rw [List.mem_singleton.mp new] at same
      exact absurd (named.trans same.symm) (unused account member)
  · intro process member name selected
    obtain ⟨account, place, rest⟩ := before.selected process member name selected
    exact ⟨account, List.mem_append_left _ place, rest⟩

theorem Exclusive.select (before : Exclusive collate auth) {index : Nat} {id : String}
    (found : auth.processes[index]? = some ⟨session, .idle⟩) (free : auth.lock = false)
    (member : account ∈ auth.accounts) (named : collate account.id = collate id)
    (offline : account.isOnline = false) :
    Exclusive collate { auth with
      lock := true, processes := auth.processes.set index ⟨session, .selected id⟩ } := by
  refine before.of_claims ?_ (fun _ _ online => online) ?_ ?_ ?_ ?_ before.unended
  · intro key claimant _
    refine claims_of_frame ?_ ?_ ?_
    · intro place current placed live
      exact ⟨current, placed, live, rfl⟩
    · intro place owner name placed
      rcases getElem?_set_cases placed with ⟨_, new⟩ | ⟨_, old⟩
      · simp at new
      · exact old
    · intro process name place holds
      exact mem_set_stage place (by simp [holds])
  · intro process place name selected
    rcases List.mem_or_eq_of_mem_set place with old | rfl
    · exact before.selected process old name selected
    · cases selected
      exact ⟨account, member, named, offline⟩
  · have moved := total_set locks ⟨session, .selected id⟩ found
    have zero := before.locked
    simp only [free, locks, Bool.false_eq_true, if_false] at moved zero ⊢
    simpa [zero] using moved
  · exact before.leaver.set found (by simp [Leaves])
  · intro process place leaves
    refine before.lively process (mem_set_stage place ?_) leaves
    rintro selected
    simp [Leaves, selected] at leaves

theorem Exclusive.update (before : Exclusive collate auth) {index session : Nat} {id : String}
    (found : auth.processes[index]? = some ⟨session, .selected id⟩) :
    Exclusive collate { auth with
      accounts := mark collate auth.accounts id true
      processes := auth.processes.set index ⟨session, .updated id⟩ } := by
  obtain ⟨account, member, named, offline⟩ :=
    before.selected _ (List.mem_of_getElem? found) id rfl
  have unclaimed : ∀ {claimant : Claimant}, collate id ≠ collate "" →
      ¬ Claims collate auth (collate id) claimant := by
    intro claimant nonempty claimed
    have online := (before.online nonempty claimed).2 account member named
    simp [offline] at online
  have claims : ∀ {key : String} {claimant : Claimant}, key ≠ collate "" →
      Claims collate { auth with
        accounts := mark collate auth.accounts id true
        processes := auth.processes.set index ⟨session, .updated id⟩ } key claimant →
      (key = collate id ∧ claimant = .login index) ∨
          (key ≠ collate id ∧ Claims collate auth key claimant) := by
    intro key claimant nonempty claimed
    have origin : (key = collate id ∧ claimant = .login index) ∨
        Claims collate auth key claimant := by
      cases claimant with
      | login place =>
          obtain ⟨owner, name, placed, named⟩ := claimed
          rcases getElem?_set_cases placed with ⟨rfl, new⟩ | ⟨_, old⟩
          · cases new
            exact .inl ⟨named.symm, rfl⟩
          · exact .inr ⟨owner, name, old, named⟩
      | session place =>
          obtain ⟨current, placed, live, names⟩ := claimed
          refine .inr ⟨current, placed, live, names.imp_right ?_⟩
          rintro ⟨process, member, owner, name, left, named⟩
          exact ⟨process, mem_set_stage member (by simp [left]), owner, name, left, named⟩
    refine origin.imp_right fun earlier => ⟨?_, earlier⟩
    rintro rfl
    exact unclaimed nonempty earlier
  refine ⟨?_, ?_, ?_, ?_, before.leaver.set found (by simp [Leaves]), ?_, before.unended⟩
  · intro key first second nonempty claimsFirst claimsSecond
    rcases claims nonempty claimsFirst with ⟨same, rfl⟩ | ⟨other, earlierFirst⟩ <;>
      rcases claims nonempty claimsSecond with ⟨same', rfl⟩ | ⟨other', earlierSecond⟩
    · rfl
    · exact absurd same other'
    · exact absurd same' other
    · exact before.single nonempty earlierFirst earlierSecond
  · intro key claimant nonempty claimed
    rcases claims nonempty claimed with ⟨rfl, rfl⟩ | ⟨other, earlier⟩
    · exact online_marked ⟨account, member, named⟩
    · exact online_mark (before.online nonempty earlier) other
  · intro process place name selected
    rcases mem_set_cases place with rfl | ⟨elsewhere, different, placed⟩
    · simp at selected
    · have outside := before.alone found rfl placed different
      simp [locks, selected] at outside
  · have moved : total locks (auth.processes.set index ⟨session, .updated id⟩) =
        total locks auth.processes :=
      total_set_same locks found rfl
    exact moved.trans before.locked
  · intro process place leaves
    refine before.lively process (mem_set_stage place ?_) leaves
    rintro updated
    simp [Leaves, updated] at leaves

theorem Exclusive.setId (before : Exclusive collate auth) {index : Nat} {id : String}
    (found : auth.processes[index]? = some ⟨session, .updated id⟩) :
    Exclusive collate { auth with
      lock := false
      sessions := auth.sessions.modify session fun current => { current with id := id }
      processes := auth.processes.set index ⟨session, .idle⟩ } := by
  have login : Claims collate auth (collate id) (.login index) := ⟨session, id, found, rfl⟩
  have claims : ∀ {key : String} {claimant : Claimant},
      Claims collate { auth with
        lock := false
        sessions := auth.sessions.modify session fun current => { current with id := id }
        processes := auth.processes.set index ⟨session, .idle⟩ } key claimant →
      claimant ≠ .login index ∧
        ((key = collate id ∧ claimant = .session session) ∨ Claims collate auth key claimant) := by
    intro key claimant claimed
    cases claimant with
    | login place =>
        obtain ⟨owner, name, placed, named⟩ := claimed
        rcases getElem?_set_cases placed with ⟨rfl, new⟩ | ⟨different, old⟩
        · simp at new
        · exact ⟨by simpa [eq_comm] using different, .inr ⟨owner, name, old, named⟩⟩
    | session place =>
        refine ⟨by simp, ?_⟩
        obtain ⟨current, placed, live, names⟩ := claimed
        have pending : (∃ process ∈ auth.processes.set index ⟨session, .idle⟩,
            process.session = place ∧ ∃ name, process.stage = .left name ∧ collate name = key) →
            ∃ process ∈ auth.processes, process.session = place ∧
              ∃ name, process.stage = .left name ∧ collate name = key := by
          rintro ⟨process, member, owner, name, left, named⟩
          exact ⟨process, mem_set_stage member (by simp [left]), owner, name, left, named⟩
        simp only [List.getElem?_modify] at placed
        obtain ⟨prior, priorFound, rfl⟩ := Option.map_eq_some_iff.mp placed
        by_cases mine : session = place
        · subst mine
          rw [if_pos rfl] at live names
          rcases names with named | left
          · exact .inl ⟨named.symm, rfl⟩
          · exact .inr ⟨prior, priorFound, live, .inr (pending left)⟩
        · rw [if_neg mine] at live names
          exact .inr ⟨prior, priorFound, live, names.imp_right pending⟩
  have settled : ∀ {key : String} {claimant : Claimant}, key ≠ collate "" →
      Claims collate { auth with
        lock := false
        sessions := auth.sessions.modify session fun current => { current with id := id }
        processes := auth.processes.set index ⟨session, .idle⟩ } key claimant →
      (key = collate id ∧ claimant = .session session) ∨
          (key ≠ collate id ∧ Claims collate auth key claimant) := by
    intro key claimant nonempty claimed
    obtain ⟨notLogin, origin⟩ := claims claimed
    refine origin.imp_right fun earlier => ⟨?_, earlier⟩
    rintro rfl
    exact notLogin (before.single nonempty earlier login)
  have sessions : ∀ {place : Nat} {current : AuthSession}, auth.sessions[place]? = some current →
      ∃ changed, (auth.sessions.modify session fun current => { current with id := id })[place]? =
        some changed ∧
        changed.connected = current.connected ∧ changed.disconnected = current.disconnected := by
    intro place current placed
    rw [List.getElem?_modify, placed]
    refine ⟨_, rfl, ?_⟩
    split <;> exact ⟨rfl, rfl⟩
  refine ⟨?_, ?_, ?_, ?_, before.leaver.set found (by simp [Leaves]), ?_, ?_⟩
  · intro key first second nonempty claimsFirst claimsSecond
    rcases settled nonempty claimsFirst with ⟨same, rfl⟩ | ⟨other, earlierFirst⟩ <;>
      rcases settled nonempty claimsSecond with ⟨same', rfl⟩ | ⟨other', earlierSecond⟩
    · rfl
    · exact absurd same other'
    · exact absurd same' other
    · exact before.single nonempty earlierFirst earlierSecond
  · intro key claimant nonempty claimed
    rcases settled nonempty claimed with ⟨rfl, rfl⟩ | ⟨other, earlier⟩
    · exact before.online nonempty login
    · exact before.online nonempty earlier
  · intro process place name selected
    exact before.selected process (mem_set_stage place (by simp [selected])) name selected
  · have moved := total_set locks ⟨session, .idle⟩ found
    have single := before.locked
    simp only [locks, Bool.false_eq_true, if_false] at moved ⊢
    split at single <;> omega
  · intro process place leaves
    obtain ⟨current, placed, off, live⟩ := before.lively process
      (mem_set_stage place (by rintro idle; simp [Leaves, idle] at leaves)) leaves
    obtain ⟨changed, changedFound, sameConnected, sameLive⟩ := sessions placed
    exact ⟨changed, changedFound, sameConnected.trans off, sameLive.trans live⟩
  · intro current member on
    obtain ⟨place, placed⟩ := List.mem_iff_getElem?.mp member
    rw [List.getElem?_modify] at placed
    obtain ⟨prior, priorFound, rfl⟩ := Option.map_eq_some_iff.mp placed
    split at on
    · rw [if_pos (by assumption)]
      exact before.unended prior (List.mem_of_getElem? priorFound) on
    · rw [if_neg (by assumption)]
      exact before.unended prior (List.mem_of_getElem? priorFound) on

theorem Exclusive.readId (before : Exclusive collate auth) {id : String}
    (found : auth.processes[index]? = some ⟨session, .leaving⟩)
    (read : ∀ current, auth.sessions[session]? = some current → current.id = id) :
    Exclusive collate { auth with processes := auth.processes.set index ⟨session, .left id⟩ } := by
  obtain ⟨reader, readerFound, _, live⟩ :=
    before.lively _ (List.mem_of_getElem? found) ⟨rfl, .inl rfl⟩
  have named := read reader readerFound
  refine before.of_claims ?_ (fun _ _ online => online) ?_ ?_ ?_ ?_ before.unended
  · intro key claimant _ claimed
    cases claimant with
    | login place =>
        obtain ⟨owner, name, placed, same⟩ := claimed
        rcases getElem?_set_cases placed with ⟨_, new⟩ | ⟨_, old⟩
        · simp at new
        · exact ⟨owner, name, old, same⟩
    | session place =>
        obtain ⟨current, placed, currentLive, names⟩ := claimed
        rcases names with own | ⟨process, member, owner, name, left, same⟩
        · exact ⟨current, placed, currentLive, .inl own⟩
        · rcases List.mem_or_eq_of_mem_set member with old | rfl
          · exact ⟨current, placed, currentLive, .inr ⟨process, old, owner, name, left, same⟩⟩
          · cases left
            cases owner
            refine ⟨reader, readerFound, live, .inl ?_⟩
            rw [named, same]
  · intro process place name selected
    exact before.selected process (mem_set_stage place (by simp [selected])) name selected
  · have moved : total locks (auth.processes.set index ⟨session, .left id⟩) =
        total locks auth.processes :=
      total_set_same locks found rfl
    exact moved.trans before.locked
  · refine before.leaver.set found ?_
    rintro owner ⟨rfl, _⟩
    exact ⟨rfl, .inl rfl⟩
  · intro process place leaves
    rcases List.mem_or_eq_of_mem_set place with old | rfl
    · exact before.lively process old leaves
    · exact before.lively ⟨session, .leaving⟩ (List.mem_of_getElem? found) ⟨rfl, .inl rfl⟩

theorem Exclusive.logout (before : Exclusive collate auth) {index : Nat} {id : String}
    (found : auth.processes[index]? = some ⟨session, .left id⟩) :
    Exclusive collate { auth with
      accounts := mark collate auth.accounts id false
      sessions := auth.sessions.modify session fun current => { current with disconnected := true }
      processes := auth.processes.set index ⟨session, .idle⟩ } := by
  have leaves : Leaves session ⟨session, .left id⟩ := ⟨rfl, .inr ⟨id, rfl⟩⟩
  obtain ⟨leaver, leaverFound, off, live⟩ := before.lively _ (List.mem_of_getElem? found) leaves
  have holds : Claims collate auth (collate id) (.session session) :=
    ⟨leaver, leaverFound, live, .inr ⟨_, List.mem_of_getElem? found, rfl, id, rfl, rfl⟩⟩
  have elsewhere : ∀ {place : Nat} {current : AuthSession}, session ≠ place →
      ((auth.sessions.modify session fun current => { current with disconnected := true })[place]? =
        some current ↔ auth.sessions[place]? = some current) := by
    intro place current different
    simp [different]
  have here : ∀ {current : AuthSession},
      (auth.sessions.modify session fun current => { current with
        disconnected := true })[session]? =
        some current → current = { leaver with disconnected := true } := by
    intro current placed
    rw [List.getElem?_modify_eq, leaverFound] at placed
    exact (Option.some.inj placed).symm
  have claims : ∀ {key : String} {claimant : Claimant}, Claims collate { auth with
      accounts := mark collate auth.accounts id false
      sessions := auth.sessions.modify session fun current => { current with disconnected := true }
      processes := auth.processes.set index ⟨session, .idle⟩ } key claimant →
      claimant ≠ .session session ∧ Claims collate auth key claimant := by
    intro key claimant claimed
    cases claimant with
    | login place =>
        obtain ⟨owner, name, placed, same⟩ := claimed
        rcases getElem?_set_cases placed with ⟨_, new⟩ | ⟨_, old⟩
        · simp at new
        · exact ⟨by simp, owner, name, old, same⟩
    | session place =>
        obtain ⟨current, placed, currentLive, names⟩ := claimed
        have different : session ≠ place := by
          rintro rfl
          rw [here placed] at currentLive
          contradiction
        refine ⟨by simpa [eq_comm] using different, current, (elsewhere
          different).mp placed, currentLive, names.imp_right ?_⟩
        rintro ⟨process, member, owner, name, left, same⟩
        exact ⟨process, mem_set_stage member (by simp [left]), owner, name, left, same⟩
  refine before.of_claims (fun _ claimed => (claims claimed).2) ?_ ?_ ?_ ?_ ?_ ?_
  · intro key claimant nonempty claimed online
    refine online_mark online ?_
    rintro rfl
    exact (claims claimed).1 (before.single nonempty (claims claimed).2 holds)
  · intro process place name selected
    obtain ⟨account, member, named, offline⟩ :=
      before.selected process (mem_set_stage place (by simp [selected])) name selected
    refine ⟨_, List.mem_map.mpr ⟨account, member, rfl⟩, ?_⟩
    split
    · exact ⟨named, rfl⟩
    · exact ⟨named, offline⟩
  · have moved : total locks (auth.processes.set index ⟨session, .idle⟩) =
        total locks auth.processes :=
      total_set_same locks found rfl
    exact moved.trans before.locked
  · exact before.leaver.set found (by simp [Leaves])
  · intro process member leavesNow
    rcases mem_set_cases member with rfl | ⟨place, different, placed⟩
    · simp [Leaves] at leavesNow
    · obtain ⟨current, currentFound, rest⟩ :=
        before.lively process (List.mem_of_getElem? placed) leavesNow
      have other : session ≠ process.session := by
        intro same
        rw [← same] at leavesNow
        exact different (before.leaver session index place _ process found placed leaves leavesNow)
      exact ⟨current, (elsewhere other).mpr currentFound, rest⟩
  · intro current member on
    obtain ⟨place, placed⟩ := List.mem_iff_getElem?.mp member
    by_cases mine : session = place
    · subst mine
      rw [here placed] at on
      simp [off] at on
    · exact before.unended current (List.mem_of_getElem? ((elsewhere mine).mp placed)) on

/-- Every move of the protocol keeps the logins exclusive. -/
theorem Move.exclusive (move : Move collate actor auth after) (before : Exclusive collate auth) :
    Exclusive collate after := by
  cases move with
  | stutter => exact before
  | connect => exact before.connect
  | request session => exact before.request session
  | disconnect found connected => exact before.disconnect found connected
  | register unused => exact before.register unused
  | select _ found free member named offline => exact before.select found free member named offline
  | update _ found => exact before.update found
  | setId _ found => exact before.setId found
  | readId _ found read => exact before.readId found read
  | logout _ found => exact before.logout found

theorem exclusive_empty : Exclusive collate ⟨[], [], [], false⟩ := by
  have unclaimed : ∀ {key : String} {claimant : Claimant},
      ¬ Claims collate ⟨[], [], [], false⟩ key claimant := by
    intro key claimant
    cases claimant <;> simp [Claims]
  constructor
  · intro key first second _ claimed
    exact absurd claimed unclaimed
  · intro key claimant _ claimed
    exact absurd claimed unclaimed
  all_goals simp [OneLeaver]

end Exclusive

end Auth

end ChattingProgram.Server

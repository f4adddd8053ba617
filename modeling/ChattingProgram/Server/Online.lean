import ChattingProgram.Server.Login

namespace ChattingProgram.Server

open ChattingProgram.Machine

/-! # Who is online

An account is used by at most one live session, and is online while it is used.
The converse needs care where a login sets the id of its session: the id that it
overwrites is the only record of an earlier login.
-/

namespace Auth

def LiveAs (collate : String → String) (account : AuthAccount) (current : AuthSession) : Prop :=
  current.disconnected = false ∧ collate current.id = collate account.id

structure Attended (collate : String → String) (auth : Auth) : Prop where
  attended : ∀ account ∈ auth.accounts, account.isOnline = true →
    (∃ (index : Nat) (current : AuthSession),
      auth.sessions[index]? = some current ∧ LiveAs collate account current) ∨
      ∃ process ∈ auth.processes, ∃ id, process.stage = .updated id ∧
      collate id = collate account.id
  left : ∀ process ∈ auth.processes, ∀ id, process.stage = .left id →
    ∀ current, auth.sessions[process.session]? = some current → current.id = id

/-- Setting the id of a session to `id` takes no account from its only session. -/
structure Settles (collate : String → String) (auth : Auth) (session : Nat)
    (id : String) : Prop where
  live : ∃ current, auth.sessions[session]? = some current ∧ current.disconnected = false
  unread : ∀ process ∈ auth.processes, process.session = session → ∀ old, process.stage ≠ .left old
  spare : ∀ account ∈ auth.accounts, account.isOnline = true → collate account.id ≠ collate id →
    ∀ current, auth.sessions[session]? = some current → collate current.id = collate account.id →
      ∃ (other : Nat) (holder : AuthSession),
        other ≠ session ∧ auth.sessions[other]? = some holder ∧ LiveAs collate account holder

section Attended

variable {collate : String → String} {auth after : Auth} {index session : Nat} {id : String}

theorem Attended.of_frame (before : Attended collate auth)
    (accounts : ∀ account ∈ after.accounts, account.isOnline = true → account ∈ auth.accounts)
    (sessions : ∀ {place : Nat} {current : AuthSession}, auth.sessions[place]? = some current →
      ∃ next, after.sessions[place]? = some next ∧ next.disconnected = current.disconnected ∧
        next.id = current.id)
    (updated : ∀ process ∈ auth.processes, ∀ id, process.stage = .updated id →
      process ∈ after.processes)
    (left : ∀ process ∈ after.processes, ∀ id, process.stage = .left id →
      ∀ current, after.sessions[process.session]? = some current → current.id = id) :
    Attended collate after := by
  refine ⟨?_, left⟩
  intro account member online
  rcases before.attended account (accounts account member online) online with
    ⟨place, current, found, live, named⟩ | ⟨process, processMember, id, holds, named⟩
  · obtain ⟨next, nextFound, sameLive, sameId⟩ := sessions found
    exact .inl ⟨place, next, nextFound, sameLive.trans live, by rw [sameId, named]⟩
  · exact .inr ⟨process, updated process processMember id holds, id, holds, named⟩

theorem mem_set_of_stage {processes : List AuthProcess} (found : processes[index]? = some old)
    (member : process ∈ processes) (other : process.stage ≠ old.stage) :
    process ∈ processes.set index next := by
  obtain ⟨place, placed⟩ := List.getElem?_of_mem member
  have different : index ≠ place := by
    rintro rfl
    exact other (congrArg AuthProcess.stage (Option.some.inj (placed.symm.trans found)))
  exact List.mem_of_getElem? ((List.getElem?_set_ne different).trans placed)

theorem Attended.connect (before : Attended collate auth) (exclusive : Exclusive collate auth) :
    Attended collate { auth with sessions := auth.sessions ++ [⟨"", true, false⟩] } := by
  refine before.of_frame (fun _ member _ => member) ?_ (fun _ member _ _ => member) ?_
  · intro place current found
    refine ⟨current, ?_, rfl, rfl⟩
    rw [List.getElem?_append_left (List.getElem?_eq_some_iff.mp found).1, found]
  · intro process member id holds current placed
    obtain ⟨owner, found, _⟩ := exclusive.lively process member ⟨rfl, .inr ⟨id, holds⟩⟩
    rw [List.getElem?_append_left (List.getElem?_eq_some_iff.mp found).1] at placed
    exact before.left process member id holds current placed

theorem Attended.request (before : Attended collate auth) (session : Nat) :
    Attended collate { auth with processes := auth.processes ++ [⟨session, .idle⟩] } := by
  refine before.of_frame (fun _ member _ => member) (fun found => ⟨_, found, rfl, rfl⟩)
    (fun _ member _ _ => List.mem_append_left _ member) ?_
  intro process member id holds
  rcases List.mem_append.mp member with old | new
  · exact before.left process old id holds
  · rw [List.mem_singleton.mp new] at holds
    contradiction

theorem Attended.disconnect (before : Attended collate auth)
    (found : auth.sessions[session]? = some current) :
    Attended collate { auth with
      sessions := auth.sessions.set session { current with connected := false }
      processes := auth.processes ++ [⟨session, .leaving⟩] } := by
  refine before.of_frame (fun _ member _ => member) ?_
    (fun _ member _ _ => List.mem_append_left _ member) ?_
  · intro place prior placed
    by_cases here : session = place
    · subst here
      cases found.symm.trans placed
      exact ⟨_, List.getElem?_set_self (List.getElem?_eq_some_iff.mp found).1, rfl, rfl⟩
    · exact ⟨prior, (List.getElem?_set_ne here).trans placed, rfl, rfl⟩
  · intro process member id holds next placed
    have old : process ∈ auth.processes := by
      rcases List.mem_append.mp member with old | new
      · exact old
      · rw [List.mem_singleton.mp new] at holds
        contradiction
    rcases getElem?_set_cases placed with ⟨here, rfl⟩ | ⟨_, placed⟩
    · exact before.left process old id holds current (here ▸ found)
    · exact before.left process old id holds next placed

theorem Attended.register (before : Attended collate auth) :
    Attended collate { auth with accounts := auth.accounts ++ [⟨id, false⟩] } := by
  refine before.of_frame ?_ (fun found => ⟨_, found, rfl, rfl⟩)
    (fun _ member _ _ => member) before.left
  intro account member online
  rcases List.mem_append.mp member with old | new
  · exact old
  · rw [List.mem_singleton.mp new] at online
    contradiction

theorem Attended.select (before : Attended collate auth)
    (found : auth.processes[index]? = some ⟨session, .idle⟩) :
    Attended collate { auth with
      lock := true, processes := auth.processes.set index ⟨session, .selected id⟩ } := by
  refine before.of_frame (fun _ member _ => member) (fun found => ⟨_, found, rfl, rfl⟩) ?_ ?_
  · intro process member held holds
    exact mem_set_of_stage found member (by simp [holds])
  · intro process member held holds
    exact before.left process (mem_set_stage member (by simp [holds])) held holds

theorem Attended.update (before : Attended collate auth)
    (found : auth.processes[index]? = some ⟨session, .selected id⟩) :
    Attended collate { auth with
      accounts := mark collate auth.accounts id true
      processes := auth.processes.set index ⟨session, .updated id⟩ } := by
  constructor
  · intro marked place online
    obtain ⟨account, member, rfl⟩ := List.mem_map.mp place
    split at online
    · rename_i named
      rw [if_pos named]
      refine .inr ⟨⟨session, .updated id⟩, ?_, id, rfl, named.symm⟩
      exact List.mem_of_getElem? (List.getElem?_set_self (List.getElem?_eq_some_iff.mp found).1)
    · rename_i unnamed
      rw [if_neg unnamed]
      refine (before.attended account member online).imp_right ?_
      rintro ⟨process, processMember, held, holds, named⟩
      exact ⟨process, mem_set_of_stage found processMember (by simp [holds]), held, holds, named⟩
  · intro process member held holds
    exact before.left process (mem_set_stage member (by simp [holds])) held holds

theorem Attended.readId (before : Attended collate auth)
    (found : auth.processes[index]? = some ⟨session, .leaving⟩)
    (read : ∀ current, auth.sessions[session]? = some current → current.id = id) :
    Attended collate { auth with processes := auth.processes.set index ⟨session, .left id⟩ } := by
  refine before.of_frame (fun _ member _ => member) (fun found => ⟨_, found, rfl, rfl⟩) ?_ ?_
  · intro process member held holds
    exact mem_set_of_stage found member (by simp [holds])
  · intro process member held holds
    rcases List.mem_or_eq_of_mem_set member with old | rfl
    · exact before.left process old held holds
    · cases holds
      exact read

theorem Attended.setId (before : Attended collate auth)
    (found : auth.processes[index]? = some ⟨session, .updated id⟩)
    (settles : Settles collate auth session id) :
    Attended collate { auth with
      lock := false
      sessions := auth.sessions.modify session fun current => { current with id := id }
      processes := auth.processes.set index ⟨session, .idle⟩ } := by
  obtain ⟨owner, ownerFound, ownerLive⟩ := settles.live
  have renamed : (auth.sessions.modify session fun current => { current with id := id })[session]? =
      some { owner with id := id } := by
    rw [List.getElem?_modify_eq, ownerFound]
    rfl
  have others : ∀ {place : Nat}, place ≠ session →
      (auth.sessions.modify session fun current => { current with id := id })[place]? =
        auth.sessions[place]? := by
    intro place different
    exact List.getElem?_modify_ne _ _ different.symm
  constructor
  · intro account member online
    by_cases named : collate account.id = collate id
    · exact .inl ⟨session, { owner with id := id }, renamed, ownerLive, named.symm⟩
    · rcases before.attended account member online with
        ⟨place, current, placed, live⟩ | ⟨process, processMember, held, holds, sameKey⟩
      · by_cases here : place = session
        · subst here
          obtain ⟨other, holder, different, otherFound, otherLive⟩ :=
            settles.spare account member online named current placed live.2
          exact .inl ⟨other, holder, (others different).trans otherFound, otherLive⟩
        · exact .inl ⟨place, current, (others here).trans placed, live⟩
      · refine .inr ⟨process, mem_set_of_stage found processMember ?_, held, holds, sameKey⟩
        intro same
        rw [holds] at same
        cases same
        exact named sameKey.symm
  · intro process member held holds current placed
    have old := mem_set_stage member (by simp [holds])
    have elsewhere : process.session ≠ session := by
      intro owned
      exact settles.unread process old owned held holds
    exact before.left process old held holds current ((others elsewhere).symm.trans placed)

theorem Attended.logout (before : Attended collate auth)
    (found : auth.processes[index]? = some ⟨session, .left id⟩) :
    Attended collate { auth with
      accounts := mark collate auth.accounts id false
      sessions := auth.sessions.modify session fun current => { current with disconnected := true }
      processes := auth.processes.set index ⟨session, .idle⟩ } := by
  have read := before.left _ (List.mem_of_getElem? found) id rfl
  constructor
  · intro marked place online
    obtain ⟨account, member, rfl⟩ := List.mem_map.mp place
    split at online
    · contradiction
    · rename_i unnamed
      rw [if_neg unnamed]
      rcases before.attended account member online with
        ⟨place, current, placed, live⟩ | ⟨process, processMember, held, holds, sameKey⟩
      · have different : session ≠ place := by
          rintro rfl
          rw [← read current placed] at unnamed
          exact unnamed live.2.symm
        refine .inl ⟨place, current, ?_, live⟩
        exact (List.getElem?_modify_ne _ _ different).trans placed
      · exact .inr ⟨process, mem_set_of_stage found processMember (by simp [holds]),
          held, holds, sameKey⟩
  · intro process member held holds current placed
    have old := mem_set_stage member (by simp [holds])
    rw [List.getElem?_modify] at placed
    obtain ⟨prior, priorFound, rfl⟩ := Option.map_eq_some_iff.mp placed
    have kept := before.left process old held holds prior priorFound
    split <;> exact kept

theorem attended_empty : Attended collate ⟨[], [], [], false⟩ := by
  constructor <;> simp

theorem Move.attended (move : Move collate actor auth after) (exclusive : Exclusive collate auth)
    (before : Attended collate auth)
    (settles : ∀ {index session : Nat} {id : String}, actor = some index →
      auth.processes[index]? = some ⟨session, .updated id⟩ → Settles collate auth session id) :
    Attended collate after := by
  cases move with
  | stutter => exact before
  | connect => exact before.connect exclusive
  | request session => exact before.request session
  | disconnect found connected => exact before.disconnect found
  | register unused => exact before.register
  | select _ found free member named offline => exact before.select found
  | update _ found => exact before.update found
  | setId acts found => exact before.setId found (settles acts found)
  | readId _ found read => exact before.readId found read
  | logout _ found => exact before.logout found

end Attended

end Auth

/-- The session may still log the account out. -/
def ClientSession.LiveAs (collate : String → String) (account : AccountRow)
    (self : ClientSession) : Prop :=
  self.disconnected = false ∧ collate self.id = collate account.id

instance (collate : String → String) (account : AccountRow) (self : ClientSession) :
    Decidable (self.LiveAs collate account) := inferInstanceAs (Decidable (_ ∧ _))

def Task.setsId : Task → Option String
  | .login id _ .setId => some id
  | _ => none

/-- `OnDisconnected` has read `_id`. -/
def Task.hasReadId : Task → Bool
  | .onDisconnected (.update _) => true
  | _ => false

namespace ServerState

/-- Setting the id of a session to `id` takes no account that is online from its
only session, and comes before `OnDisconnected` of the session reads the id. -/
def Settles (collate : String → String) (self : ServerState) (session : Nat) (id : String) : Prop :=
  (∃ current ∈ self.sessions[session]?, current.disconnected = false) ∧
    (∀ process ∈ self.processes, process.session = session → process.task.hasReadId = false) ∧
    ∀ account ∈ self.db.account, account.isOnline = true → collate account.id ≠ collate id →
      collate (self.sessionId session) = collate account.id →
        ∃ holder ∈ self.sessions.eraseIdx session, holder.LiveAs collate account

def SafeLogin (collate : String → String) : ServerEvent → ServerState → Prop
  | .run index, self => ∀ process ∈ self.processes[index]?, ∀ id ∈ process.task.setsId,
      self.Settles collate process.session id
  | _, _ => True

instance (collate : String → String) (self : ServerState) (session : Nat) (id : String) :
    Decidable (self.Settles collate session id) := inferInstanceAs (Decidable (_ ∧ _ ∧ _))

instance (collate : String → String) : ∀ event self, Decidable (SafeLogin collate event self)
  | .run _, _ => inferInstanceAs (Decidable (∀ _ ∈ _, _))
  | .connect, _ | .request _ _, _ | .disconnect _, _ => .isTrue trivial

variable {collate : String → String} {self after final : ServerState} {events : List ServerEvent}

theorem run_exclusive (ran : (system collate).run events fresh = some final) :
    Auth.Exclusive collate final.auth := by
  have stepPreserves : ∀ {event : ServerEvent} {before after : ServerState},
      (system collate).step event before = some after → Auth.Exclusive collate before.auth →
        Auth.Exclusive collate after.auth := by
    intro event before after stepped exclusive
    exact (step_move stepped).exclusive exclusive
  exact System.run_preserves (fun stepped => stepPreserves stepped) ran Auth.exclusive_empty

theorem claims_of_liveAs (found : self.sessions[index]? = some current)
    (live : current.LiveAs collate account) :
    Auth.Claims collate self.auth (collate account.id) (.session index) := by
  refine ⟨current.auth, ?_, live.1, .inl live.2⟩
  simp only [auth, List.getElem?_map, found, Option.map_some]

/-- No account is used by two live sessions, and one that is used is online.  The
key of an account is the key of the empty id only if its id is empty for the
database. -/
theorem no_double_login (ran : (system collate).run events fresh = some final)
    {account : AccountRow} (member : account ∈ final.db.account)
    (nonempty : collate account.id ≠ collate "") :
    (∀ {first second : Nat} {left right : ClientSession}, final.sessions[first]? = some left →
      final.sessions[second]? = some right → left.LiveAs collate account →
        right.LiveAs collate account →
        first = second) ∧
      ∀ current ∈ final.sessions, current.LiveAs collate account → account.isOnline = true := by
  have exclusive := run_exclusive ran
  constructor
  · intro first second left right foundLeft foundRight liveLeft liveRight
    have same := exclusive.single nonempty (claims_of_liveAs foundLeft liveLeft)
      (claims_of_liveAs foundRight liveRight)
    cases same
    rfl
  · intro current currentMember live
    obtain ⟨index, found⟩ := List.getElem?_of_mem currentMember
    have online := exclusive.online nonempty (claims_of_liveAs found live)
    exact online.2 account.auth (List.mem_map_of_mem member) rfl

/-- Two sessions log in as `a`; only the first one becomes a live session of `a`. -/
theorem no_double_login_second_refused :
    let events := [.connect, .connect] ++ handled 0 (.cRegister "a" "p") 0 2 ++
      [.request 0 (.cLogin "a" "p"), .request 1 (.cLogin "a" "p")] ++ runs 1 3 ++ runs 2 2
    ∃ final account, (system id).run events fresh = some final ∧ account ∈ final.db.account ∧
      (∃ current ∈ final.sessions, current.LiveAs id account) ∧ account.isOnline = true := by
  intro events
  obtain ⟨final, ran, account, member, nonempty, current, currentMember, live⟩ : ∃ final,
      (system id).run events fresh = some final ∧ ∃ account ∈ final.db.account,
        account.id ≠ "" ∧ ∃ current ∈ final.sessions, current.LiveAs id account :=
    ⟨_, rfl, by decide⟩
  have result := no_double_login ran member nonempty
  exact ⟨final, account, ran, member, ⟨current, currentMember, live⟩,
    result.2 current currentMember live⟩

theorem settles_auth {id : String} (settles : self.Settles collate session id) :
    Auth.Settles collate self.auth session id := by
  obtain ⟨⟨owner, found, live⟩, unread, spare⟩ := settles
  have placed : self.auth.sessions[session]? = some owner.auth := by
    simp only [auth, List.getElem?_map, Option.mem_def.mp found, Option.map_some]
  constructor
  · exact ⟨owner.auth, placed, live⟩
  · intro process member owned old holds
    obtain ⟨stored, storedMember, rfl⟩ := List.mem_map.mp member
    have silent := unread stored storedMember owned
    obtain ⟨owning, task⟩ := stored
    cases task with
    | onDisconnected pc => cases pc <;> simp_all [Process.auth, authStage, Task.hasReadId]
    | login id pssd pc => cases pc <;> simp_all [Process.auth, authStage]
    | _ => simp_all [Process.auth, authStage]
  · intro account member online other current currentFound named
    obtain ⟨row, rowMember, rfl⟩ := List.mem_map.mp member
    cases placed.symm.trans currentFound
    have sameId : self.sessionId session = owner.id := by
      simp only [sessionId, Option.mem_def.mp found, Option.map_some, Option.getD_some]
    obtain ⟨holder, holderMember, holderLive⟩ :=
      spare row rowMember online other (by rw [sameId]; exact named)
    obtain ⟨place, different, placedHolder⟩ := List.mem_eraseIdx_iff_getElem?.mp holderMember
    refine ⟨place, holder.auth, different, ?_, holderLive⟩
    simp only [auth, List.getElem?_map, placedHolder, Option.map_some]

structure Attended (collate : String → String) (server : ServerState) : Prop where
  exclusive : Auth.Exclusive collate server.auth
  attended : Auth.Attended collate server.auth

theorem setsId_of_updated {id : String} (updated : authStage task = .updated id) :
    task.setsId = some id := by
  cases task with
  | login => rename_i pc; cases pc <;> simp_all [authStage, Task.setsId]
  | onDisconnected pc => cases pc <;> simp_all [authStage]
  | _ => simp_all [authStage]

theorem step_attended (safe : SafeLogin collate event self)
    (stepped : (system collate).step event self = some after) (before : Attended collate self) :
    Attended collate after := by
  have move := step_move stepped
  refine ⟨move.exclusive before.exclusive, move.attended before.exclusive before.attended ?_⟩
  intro index session id acts found
  cases event with
  | run actor =>
      cases acts
      simp only [auth, List.getElem?_map, Option.map_eq_some_iff] at found
      obtain ⟨⟨owner, task⟩, taskFound, same⟩ := found
      simp only [Process.auth, AuthProcess.mk.injEq] at same
      obtain ⟨rfl, updated⟩ := same
      exact settles_auth (safe _ taskFound id (setsId_of_updated updated))
  | connect | request | disconnect => contradiction

/-- In a run whose logins are safe, an account is online only while a live session
uses it, and can be logged in to when none does. -/
theorem no_account_stuck (safe : (system collate).Guarded (SafeLogin collate) events fresh)
    (ran : (system collate).run events fresh = some final) (quiescent : final.Quiescent)
    {account : AccountRow} (member : account ∈ final.db.account) :
    (account.isOnline = true → ∃ current ∈ final.sessions, current.LiveAs collate account) ∧
      ((∀ current ∈ final.sessions, ¬ current.LiveAs collate account) →
        final.db.selectOffline collate account.id account.password = true) := by
  have used : account.isOnline = true → ∃ current ∈ final.sessions,
      current.LiveAs collate account := by
    intro online
    have result := System.run_preserves_guarded step_attended safe ran
      ⟨Auth.exclusive_empty, Auth.attended_empty⟩
    rcases result.attended.attended account.auth (List.mem_map_of_mem member) online with
      ⟨index, current, found, live⟩ | ⟨process, processMember, id, holds, _⟩
    · obtain ⟨stored, storedMember, rfl⟩ := List.mem_map.mp (List.mem_of_getElem? found)
      exact ⟨stored, storedMember, live⟩
    · obtain ⟨stored, storedMember, rfl⟩ := List.mem_map.mp processMember
      rw [Process.auth, quiescent stored storedMember] at holds
      contradiction
  refine ⟨used, ?_⟩
  intro unused
  have offline : account.isOnline = false := by
    by_contra online
    obtain ⟨current, currentMember, live⟩ := used (by simpa using online)
    exact unused current currentMember live
  simp only [Database.selectOffline, List.any_eq_true, decide_eq_true_eq]
  exact ⟨account, member, rfl, rfl, offline⟩

/-- A session logs in as `a` and leaves; then `a` can log in again. -/
theorem no_account_stuck_after_logout :
    let events := .connect :: handled 0 (.cRegister "a" "p") 0 2 ++
      handled 0 (.cLogin "a" "p") 1 4 ++ .disconnect 0 :: runs 2 3
    ∃ final account, (system id).run events fresh = some final ∧ account ∈ final.db.account ∧
      final.db.selectOffline id account.id account.password = true := by
  intro events
  have safe : (system id).Guarded (SafeLogin id) events fresh := by decide
  obtain ⟨final, ran, quiescent, account, member, unused⟩ : ∃ final,
      (system id).run events fresh = some final ∧ final.Quiescent ∧
      ∃ account ∈ final.db.account, ∀ current ∈ final.sessions, ¬ current.LiveAs id account :=
    ⟨_, rfl, by decide⟩
  exact ⟨final, account, ran, member, (no_account_stuck safe ran quiescent member).2 unused⟩

/-- A session that logs in as `a` and then as `b` leaves `a` online for ever: no
session has the id `a` any more. -/
theorem account_stuck_after_second_login :
    ∃ final, (system id).run (.connect :: handled 0 (.cRegister "a" "p") 0 2 ++
        handled 0 (.cRegister "b" "p") 1 2 ++ handled 0 (.cLogin "a" "p") 2 4 ++
        handled 0 (.cLogin "b" "p") 3 4) fresh = some final ∧
      final.Quiescent ∧ ∃ account ∈ final.db.account, account.isOnline = true ∧
        ∀ current ∈ final.sessions, ¬ current.LiveAs id account :=
  ⟨_, rfl, by decide⟩

end ServerState

end ChattingProgram.Server

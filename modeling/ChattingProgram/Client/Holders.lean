import ChattingProgram.Client.Phases

namespace ChattingProgram.Client.MainDialog

open ChattingProgram.Protocol ChattingProgram.Machine

/-! # The answers that handlers have still to read

An answer waits for the handlers that it leads to: while it arrives, while its
event is posted, and while a message box is shown.  A handler finds its own
answer at the front of the queue if there is at most one that waits, or, where
it takes the answer at once, if the events are in the order of the answers.
-/

/-- The answer that an unfinished handler has still to take. -/
def Frame.holder (service : Service) : Frame → Option (Option RequestNumber)
  | .messageBox _ (some pops) response => if pops = service then some response else none
  | _ => none

/-- The answer that the handler of a posted event is about to read. -/
def Posted.holder (service : Service) (posted : Posted) : Option (Option RequestNumber) :=
  if posted.event.reads = some service then some posted.response else none

section Reads

variable {event : UIEvent}

theorem reads_of_issues (issues : event.issues = some issue)
    (silent : event ≠ .loginCompletedLobby) : event.reads = none := by
  cases event with
  | loginCompletedLobby => exact absurd rfl silent
  | loginClickedLogin | registerClickedRegister | refreshClickedLobby | leaveRoomCompletedLobby
  | createRoomClickedLobby | joinRoomClickedLobby | sendChatClickedRoom | leaveRoomClickedRoom =>
      rfl
  | _ => cases issues

theorem reads_of_forwards (forwards : event.forwards = some next) :
    event.reads = event.completes ∧ next.reads = event.completes := by
  cases event with
  | loginCompletedLogin | createRoomCompletedLobby | joinRoomCompletedLobby =>
      cases forwards
      exact ⟨rfl, rfl⟩
  | _ => cases forwards

theorem reads_of_reports (reports : event.reports) : event.reads = event.completes := by
  cases event with
  | loginCompletedLogin | registerCompletedRegister | createRoomCompletedLobby
  | joinRoomCompletedLobby => rfl
  | _ => cases reports

theorem rereads_of_reports (completes : event.completes = some service) (reports : event.reports) :
    service.rereads = true := by
  cases event with
  | loginCompletedLogin | registerCompletedRegister | createRoomCompletedLobby
  | joinRoomCompletedLobby =>
      cases completes
      rfl
  | _ => cases reports

theorem reads_of_takes (takes : event.takes) : event.reads = event.completes := by
  cases event with
  | refreshCompletedLobby | createRoomCompletedRoom | joinRoomCompletedRoom | sendChatCompletedRoom
  | refreshRoomCompleted => rfl
  | _ => cases takes

theorem reads_of_clicked (page : event.clickedLoginPage ∨ event.clickedInside) :
    event.reads = none := by
  cases event with
  | loginClickedLogin | registerClickedRegister | createRoomClickedLobby | joinRoomClickedLobby
  | refreshClickedLobby | sendChatClickedRoom | leaveRoomClickedRoom => rfl
  | _ => simp [UIEvent.clickedLoginPage, UIEvent.clickedInside] at page

/-- An event reads no answer but the one that it completes. -/
theorem completes_of_reads (completes : event.completes = some completed)
    (reads : event.reads = some service) : completed = service := by
  cases event <;> cases completes <;> cases reads <;> rfl

theorem reads_of_completion (asked : requested type = some service)
    (completed : completion type = some event) (read : service ≠ .roomOut) :
    event.reads = some service := by
  cases type with
  | cRoomOut =>
      cases asked
      exact absurd rfl read
  | cLogin | cRegister | cRefreshLobby | cCreateRoom | cJoinRoom | cChatLog =>
      cases asked
      cases completed
      rfl
  | _ => cases asked

end Reads

namespace Books

variable (books : Books) (service : Service)

def framed : List (Option RequestNumber) := books.frames.filterMap (Frame.holder service)

def queued : List (Option RequestNumber) := books.posted.filterMap (Posted.holder service)

def arrivals : List (Option RequestNumber) :=
  match books.network with
  | .execute executed response => if executed = service then [response] else []
  | _ => []

/-- The answers that the handlers have still to read. -/
def holders : List (Option RequestNumber) := books.framed service ++ books.queued service ++
  books.arrivals service

/-- There is at most one answer, and at most one handler that reads it. -/
inductive Held : Prop
  | none (answers : books.answers service = []) (holders : books.holders service = [])
  | one {response} (answers : books.answers service = [response])
    (holders : books.holders service = [response])
  | kept {response} (answers : books.answers service = [response])
    (holders : books.holders service = [])

variable {books service} {after : Books} {event : UIEvent} {response : Option RequestNumber}

theorem Held.of_same (held : books.Held service)
    (answers : after.answers service = books.answers service)
    (holders : after.holders service = books.holders service) : after.Held service := by
  cases held with
  | none empty nobody => exact .none (answers.trans empty) (holders.trans nobody)
  | one found reader => exact .one (answers.trans found) (holders.trans reader)
  | kept found nobody => exact .kept (answers.trans found) (holders.trans nobody)

theorem Held.none_of_empty (held : books.Held service) (empty : books.answers service = []) :
    books.holders service = [] := by
  cases held with
  | none _ nobody => exact nobody
  | one found => cases empty.symm.trans found
  | kept found => cases empty.symm.trans found

theorem holders_nil : books.holders service = [] ↔
    books.framed service = [] ∧ books.queued service = [] ∧ books.arrivals service = [] := by
  simp [holders]

theorem queued_post_other (other : event.reads ≠ some service) :
    (books.post event response).queued service = books.queued service := by
  simp [queued, post, Posted.holder, other]

theorem queued_post_own (own : event.reads = some service) :
    (books.post event response).queued service = books.queued service ++ [response] := by
  simp [queued, post, Posted.holder, own]

theorem framed_messageBox_other (other : service ≠ pops) :
    (books.messageBox text (some pops) response).framed service = books.framed service := by
  simp [framed, messageBox, Frame.holder, Ne.symm other]

theorem framed_messageBox_own :
    (books.messageBox text (some service) response).framed service =
      response :: books.framed service := by
  simp [framed, messageBox, Frame.holder]

theorem holders_of_same (framed : after.framed service = books.framed service)
    (queued : after.queued service = books.queued service)
    (arrivals : after.arrivals service = books.arrivals service) :
    after.holders service = books.holders service := by
  rw [holders, framed, queued, arrivals, holders]

theorem holders_post_own (nobody : books.holders service = []) (own : event.reads = some service) :
    (books.post event response).holders service = [response] := by
  obtain ⟨frames, posted, network⟩ := holders_nil.mp nobody
  have framed : (books.post event response).framed service = [] := frames
  have arrivals : (books.post event response).arrivals service = [] := network
  rw [holders, framed, arrivals, queued_post_own own, posted]
  rfl

theorem holders_messageBox_own (nobody : books.holders service = []) :
    (books.messageBox text (some service) response).holders service = [response] := by
  obtain ⟨frames, posted, network⟩ := holders_nil.mp nobody
  have queued : (books.messageBox text (some service) response).queued service = [] := posted
  have arrivals : (books.messageBox text (some service) response).arrivals service = [] := network
  rw [holders, queued, arrivals, framed_messageBox_own, frames]
  rfl

theorem eq_nil_of_append_eq_singleton {Value : Type} {first last rest : List Value}
    {value only : Value} (same : first ++ value :: rest ++ last = [only]) :
    first = [] ∧ value = only ∧ rest = [] ∧ last = [] := by
  cases first with
  | nil => simpa [and_assoc] using same
  | cons => simp at same

/-- What a handler finds when it begins. -/
inductive Ready (books : Books) (event : UIEvent) (response : Option RequestNumber)
    (service : Service) : Prop
  | own (reads : event.reads = some service) (answers : books.answers service = [response])
      (nobody : books.holders service = [])
  | other (reads : event.reads ≠ some service) (held : books.Held service)

theorem Held.ready {rest : List Posted} (held : books.Held service)
    (posted : books.posted = ⟨event, response⟩ :: rest) :
    { books with posted := rest }.Ready event response service := by
  by_cases reads : event.reads = some service
  · have queued : books.queued service =
        response :: { books with posted := rest }.queued service := by
      simp [Books.queued, posted, Posted.holder, reads]
    have all : books.holders service = books.framed service ++
        response :: { books with posted := rest }.queued service ++ books.arrivals service := by
      rw [holders, queued]
    cases held with
    | none _ nobody => simp [all] at nobody
    | kept _ nobody => simp [all] at nobody
    | one found reader =>
        obtain ⟨frames, same, later, network⟩ :=
          eq_nil_of_append_eq_singleton (all.symm.trans reader)
        subst same
        exact .own reads found (holders_nil.mpr ⟨frames, later, network⟩)
  · have same : { books with posted := rest }.holders service = books.holders service := by
      simp [holders, framed, queued, arrivals, posted, Posted.holder, reads]
    exact .other reads (held.of_same rfl same)

theorem answers_pop_own : (books.pop service).answers service = (books.answers service).tail :=
  Function.update_self _ _ _

theorem answers_pop_other (other : service ≠ popped) :
    (books.pop popped).answers service = books.answers service := Function.update_of_ne other _ _

theorem answers_store_own :
    (books.store service response).answers service = books.answers service ++ [response] :=
  Function.update_self _ _ _

theorem answers_store_other (other : service ≠ stored) :
    (books.store stored response).answers service = books.answers service :=
      Function.update_of_ne other _ _

theorem Handles.held (handled : books.Handles event response after) (safe : ¬ books.Fires event)
    (ready : books.Ready event response service) : after.Held service := by
  cases ready with
  | own reads found nobody =>
      cases handled with
      | request issues _ _ silent => cases (reads_of_issues issues silent).symm.trans reads
      | enterLobby => exact .kept found nobody
      | forward completes forwards =>
          cases completes_of_reads completes reads
          exact .one found (holders_post_own nobody
            ((reads_of_forwards forwards).2.trans completes))
      | leave left =>
          subst left
          cases reads
      | report completes =>
          cases completes_of_reads completes reads
          exact .one found (holders_messageBox_own nobody)
      | registered registers =>
          subst registers
          cases reads
          exact .none (answers_pop_own.trans (congrArg List.tail found)) nobody
      | take completes =>
          cases completes_of_reads completes reads
          exact .none (answers_pop_own.trans (congrArg List.tail found)) nobody
      | ignore unmapped =>
          subst unmapped
          cases reads
      | crash fired => exact absurd fired safe
  | other reads held =>
      cases handled with
      | request => exact held.of_same rfl rfl
      | enterLobby => exact held.of_same rfl rfl
      | forward completes forwards =>
          have other := reads
          rw [(reads_of_forwards forwards).1] at other
          rw [← (reads_of_forwards forwards).2] at other
          exact held.of_same rfl (holders_of_same rfl (queued_post_other other) rfl)
      | leave => exact held.of_same rfl (holders_of_same rfl (queued_post_other nofun) rfl)
      | @report reported _ completes reports =>
          rw [reads_of_reports reports, completes] at reads
          have distinct : service ≠ reported := fun same => reads (by rw [same])
          exact held.of_same rfl (holders_of_same (framed_messageBox_other distinct) rfl rfl)
      | registered registers =>
          subst registers
          exact held.of_same (answers_pop_other fun same => reads (by rw [same]; rfl)) rfl
      | take completes takes =>
          rw [reads_of_takes takes, completes] at reads
          exact held.of_same (answers_pop_other fun same => reads (by rw [same])) rfl
      | ignore => exact held
      | crash fired => exact absurd fired safe

/-- What a handler reads. -/
theorem Handles.readings (handled : books.Handles event response after)
    (safe : ¬ books.Fires event) :
    after.readings = books.readings ∨ ∃ service, event.reads = some service ∧
      after.readings = books.readings ++ [⟨service, response, (books.answers service).head?⟩] := by
  cases handled with
  | request => exact .inl rfl
  | enterLobby entered =>
      subst entered
      exact .inr ⟨.auth, rfl, rfl⟩
  | forward completes forwards =>
      exact .inr ⟨_, (reads_of_forwards forwards).1.trans completes, rfl⟩
  | leave => exact .inl rfl
  | report completes reports => exact .inr ⟨_, (reads_of_reports reports).trans completes, rfl⟩
  | registered registers =>
      subst registers
      exact .inr ⟨.auth, rfl, rfl⟩
  | take completes takes => exact .inr ⟨_, (reads_of_takes takes).trans completes, rfl⟩
  | ignore => exact .inl rfl
  | crash fired => exact absurd fired safe

/-- The answers to the refreshing of the lobby and their handlers are in the same order. -/
structure Lined (books : Books) : Prop where
  framed : ∀ service : Service, service.rereads = false → books.framed service = []
  queued : books.queued .refreshLobby ++ books.arrivals .refreshLobby = books.answers .refreshLobby

theorem Lined.of_same (lined : books.Lined)
    (framed : ∀ service : Service, service.rereads = false →
      after.framed service = books.framed service)
    (queued : after.queued .refreshLobby = books.queued .refreshLobby)
    (arrivals : after.arrivals .refreshLobby = books.arrivals .refreshLobby)
    (answers : after.answers .refreshLobby = books.answers .refreshLobby) : after.Lined where
  framed service once := (framed service once).trans (lined.framed service once)
  queued := by rw [queued, arrivals, answers]; exact lined.queued

theorem Handles.lined_other (handled : books.Handles event response after)
    (safe : ¬ books.Fires event) (other : event.reads ≠ some .refreshLobby) (lined : books.Lined) :
    after.Lined := by
  cases handled with
  | request => exact lined.of_same (fun _ _ => rfl) rfl rfl rfl
  | enterLobby => exact lined.of_same (fun _ _ => rfl) rfl rfl rfl
  | forward completes forwards =>
      rw [(reads_of_forwards forwards).1, ← (reads_of_forwards forwards).2] at other
      exact lined.of_same (fun _ _ => rfl) (queued_post_other other) rfl rfl
  | leave => exact lined.of_same (fun _ _ => rfl) (queued_post_other nofun) rfl rfl
  | @report reported _ completes reports =>
      refine lined.of_same ?_ rfl rfl rfl
      intro service once
      refine framed_messageBox_other ?_
      intro same
      subst same
      rw [rereads_of_reports completes reports] at once
      cases once
  | registered =>
      have kept : (books.pop .auth).answers .refreshLobby = books.answers .refreshLobby :=
        answers_pop_other nofun
      exact lined.of_same (fun _ _ => rfl) rfl rfl kept
  | take completes takes =>
      rw [reads_of_takes takes, completes] at other
      exact lined.of_same (fun _ _ => rfl) rfl rfl
        (answers_pop_other fun same => other (by rw [same]))
  | ignore => exact lined
  | crash fired => exact absurd fired safe

theorem Handles.lined_own (handled : books.Handles .refreshCompletedLobby response after)
    (safe : ¬ books.Fires .refreshCompletedLobby)
    (framed : ∀ service : Service, service.rereads = false → books.framed service = [])
    (queued : response :: (books.queued .refreshLobby ++ books.arrivals .refreshLobby) =
      books.answers .refreshLobby) : after.Lined := by
  cases handled with
  | take completes =>
      cases completes
      refine ⟨framed, ?_⟩
      have popped : (books.pop .refreshLobby).answers .refreshLobby = _ := answers_pop_own
      rw [← queued] at popped
      exact popped.symm
  | request issues => cases issues
  | enterLobby entered => cases entered
  | forward _ forwards => cases forwards
  | leave left => cases left
  | report _ reports => cases reports
  | registered registers => cases registers
  | ignore unmapped => cases unmapped
  | crash fired => exact absurd fired safe

theorem refreshes_of_reads (reads : event.reads = some .refreshLobby) :
    event = .refreshCompletedLobby := by
  cases event with
  | refreshCompletedLobby => rfl
  | _ => cases reads

theorem Lined.dispatch (lined : books.Lined) (posted : books.posted = ⟨event, response⟩ :: rest)
    (handled : { books with posted := rest }.Handles event response after)
    (safe : ¬ { books with posted := rest }.Fires event) : after.Lined := by
  by_cases reads : event.reads = some .refreshLobby
  · cases refreshes_of_reads reads
    have queued : books.queued .refreshLobby =
        response :: { books with posted := rest }.queued .refreshLobby := by
      simp [Books.queued, posted, Posted.holder, reads]
    refine handled.lined_own safe lined.framed ?_
    have ordered := lined.queued
    rw [queued] at ordered
    exact ordered
  · have queued : { books with posted := rest }.queued .refreshLobby =
        books.queued .refreshLobby := by
      simp [Books.queued, posted, Posted.holder, reads]
    exact handled.lined_other safe reads (lined.of_same (fun _ _ => rfl) queued rfl rfl)

/-- The handler of the next event finds the answer that led to it. -/
theorem head_of_reads (posted : books.posted = ⟨event, response⟩ :: rest)
    (reads : event.reads = some service) (clears : service.isClear) (lined : books.Lined)
    (held : service.rereads → books.Held service) :
    (books.answers service).head? = some response := by
  cases service with
  | refreshLobby =>
      rw [← lined.queued]
      simp [queued, posted, Posted.holder, reads]
  | auth | createRoom | joinRoom =>
      cases (held rfl).ready posted with
      | own _ found => exact congrArg List.head? found
      | other elsewhere => exact absurd reads elsewhere
  | refreshRoom | chatLog => cases clears
  | roomOut => cases event <;> cases reads

end Books

end ChattingProgram.Client.MainDialog

import ChattingProgram.Client.Exchange

namespace ChattingProgram.Client.MainDialog

open ChattingProgram.Protocol ChattingProgram.Machine

/-! # The assertions of the handlers

A queue has at least as many answers as events that have still to be handled,
because an answer is stored before its event is posted and each handler takes at
most its own.  A successful login takes none, so that from then on `AuthModel`
has one more: the identity that the handlers of the other pages read.
-/

/-- A handler that shows a message box and has not yet taken its answer. -/
def Frame.holds (service : Service) : Frame → Bool
  | .messageBox _ (some pops) _ => pops = service
  | _ => false

namespace Books

variable (books : Books)

/-- The posted events of a service that are not fully handled. -/
def pending (service : Service) : Nat :=
  books.frames.countP (Frame.holds service) +
    books.posted.countP fun posted => posted.event.completes = some service

/-- An answer is stored and its callback has not run yet. -/
def arriving (service : Service) : Nat :=
  match books.network with
  | .execute executed _ => if executed = service then 1 else 0
  | _ => 0

def outstanding (service : Service) : Nat := books.pending service + books.arriving service

/-- What posting an event adds to the events of a service. -/
def weight (event : UIEvent) (service : Service) : Nat :=
  if event.completes = some service then 1 else 0

variable {books} {service : Service} {event : UIEvent} {response : Option RequestNumber}

theorem outstanding_post : (books.post event response).outstanding service =
    books.outstanding service + weight event service := by
  simp only [outstanding, pending, arriving, post, weight, List.countP_append,
    List.countP_singleton, decide_eq_true_eq]
  omega

theorem outstanding_of_posted (posted : books.posted = ⟨event, response⟩ :: rest) :
    books.outstanding service = { books with posted := rest }.outstanding service +
      weight event service := by
  simp only [outstanding, pending, arriving, weight, posted, List.countP_cons, decide_eq_true_eq]
  omega

theorem outstanding_messageBox :
    (books.messageBox text (some pops) response).outstanding service =
      books.outstanding service + if pops = service then 1 else 0 := by
  simp only [outstanding, pending, arriving, messageBox, Frame.holds, List.countP_cons,
    decide_eq_true_eq]
  omega

theorem outstanding_of_frames
    (frames : books.frames = .messageBox text (some pops) response :: rest) :
    books.outstanding service =
      { books with frames := rest }.outstanding service + if pops = service then 1 else 0 := by
  simp only [outstanding, pending, arriving, frames, Frame.holds, List.countP_cons,
    decide_eq_true_eq]
  omega

theorem outstanding_notice :
    (books.messageBox text none response).outstanding service = books.outstanding service := by
  simp [outstanding, pending, arriving, messageBox, Frame.holds]

theorem outstanding_issue {issue : Issue} :
    (books.issue issue message).outstanding service = books.outstanding service := by
  simp [outstanding, pending, arriving, Books.issue, Frame.holds]

@[simp] theorem outstanding_reading {read : Service} :
    (books.reading read response).outstanding service = books.outstanding service := rfl

@[simp] theorem outstanding_display :
    (books.display shown).outstanding service = books.outstanding service := rfl

@[simp] theorem outstanding_pop :
    (books.pop popped).outstanding service = books.outstanding service := rfl

theorem length_pop : ((books.pop popped).answers service).length =
    (books.answers service).length - if popped = service then 1 else 0 := by
  by_cases same : service = popped
  · subst same
    simp [pop]
  · simp [pop, same, Ne.symm same]


theorem weight_of_completes (completes : event.completes = some completed) :
    weight event service = if completed = service then 1 else 0 := by
  simp [weight, completes]

/-- An event that is forwarded weighs no more than the event before it. -/
theorem weight_forwards (forwards : event.forwards = some next) :
    weight next service ≤ weight event service := by
  cases event with
  | loginCompletedLogin =>
      cases forwards
      exact Nat.zero_le _
  | createRoomCompletedLobby =>
      cases forwards
      exact Nat.le_refl _
  | joinRoomCompletedLobby =>
      cases forwards
      exact Nat.le_refl _
  | _ => cases forwards

/-- An assertion of the handler does not hold. -/
def Fires (books : Books) (event : UIEvent) : Prop :=
  (∃ service, event.completes = some service ∧ books.answers service = []) ∨
    event.readsIdentity ∧ books.answers .auth = []

theorem surplus_pop
    (balanced : books.outstanding service + (if popped = service then 1 else 0) ≤
      (books.answers service).length) :
    (books.answers service).length + books.outstanding service ≤
      ((books.pop popped).answers service).length +
        (books.outstanding service + if popped = service then 1 else 0) := by
  rw [length_pop]
  omega

/-- A handler takes no answer beyond its own. -/
theorem Handles.surplus (handled : books.Handles event response after)
    (safe : ¬ books.Fires event)
    (balanced : books.outstanding service + weight event service ≤ (books.answers service).length) :
    (books.answers service).length + after.outstanding service ≤
      (after.answers service).length + (books.outstanding service + weight event service) := by
  cases handled with
  | request =>
      rw [outstanding_issue, outstanding_display]
      exact Nat.add_le_add_left (Nat.le_add_right _ _) _
  | enterLobby =>
      rw [outstanding_issue, outstanding_display, outstanding_reading]
      exact Nat.add_le_add_left (Nat.le_add_right _ _) _
  | forward _ forwards =>
      rw [outstanding_post, outstanding_display, outstanding_reading]
      have lighter : weight _ service ≤ weight event service := weight_forwards forwards
      exact Nat.add_le_add_left (Nat.add_le_add_left lighter _) _
  | leave left =>
      subst left
      rw [outstanding_post, outstanding_display]
      exact Nat.le_refl _
  | report completes =>
      rw [outstanding_messageBox, outstanding_reading, weight_of_completes completes]
      exact Nat.le_refl _
  | registered registers =>
      subst registers
      have completes : UIEvent.completes .registerCompletedRegister = some .auth := rfl
      rw [weight_of_completes completes] at balanced ⊢
      rw [outstanding_notice, outstanding_pop, outstanding_reading]
      exact surplus_pop balanced
  | take completes =>
      rw [weight_of_completes completes] at balanced ⊢
      rw [outstanding_display, outstanding_pop, outstanding_reading]
      exact surplus_pop balanced
  | ignore => exact Nat.add_le_add_left (Nat.le_add_right _ _) _
  | crash fired => exact absurd fired safe

/-- The events of the login page and of the two callbacks that are always set. -/
def early : UIEvent → Bool
  | .loginClickedLogin | .loginCompletedLogin | .registerClickedRegister
  | .registerCompletedRegister
  | .registerCompletedLobby | .sendChatCompletedRoom | .refreshRoomCompleted => true
  | _ => false

/-- No page but the login page has been shown. -/
structure Early (books : Books) : Prop where
  outside : books.inside = false
  events : ∀ posted ∈ books.posted, early posted.event
  slots : ∀ service callback, books.slot service = some callback → early callback.event

/-- `AuthModel` has an answer that no event takes. -/
def Known (books : Books) : Prop := books.outstanding .auth < (books.answers .auth).length

structure Sound (books : Books) : Prop where
  slots : ∀ service callback, books.slot service = some callback →
    callback.event.completes = some service
  balanced : ∀ service, books.outstanding service ≤ (books.answers service).length
  stage : books.Early ∨ books.Known
  running : books.crashed = false

theorem not_early_of_readsIdentity (reads : event.readsIdentity) : early event = false := by
  cases event with
  | leaveRoomCompletedLobby | createRoomCompletedRoom | sendChatClickedRoom
  | leaveRoomClickedRoom => rfl
  | _ => cases reads

/-- The assertions of the next handler hold. -/
theorem Sound.safe (sound : books.Sound) (posted : books.posted = ⟨event, response⟩ :: rest) :
    ¬ { books with posted := rest }.Fires event := by
  intro fired
  rcases fired with ⟨service, completes, empty⟩ | ⟨reads, empty⟩
  · have enough := sound.balanced service
    have counted : books.outstanding service = _ := outstanding_of_posted posted
    have none : books.answers service = [] := empty
    rw [weight_of_completes completes, if_pos rfl] at counted
    rw [none, List.length_nil] at enough
    omega
  · have none : books.answers .auth = [] := empty
    cases sound.stage with
    | inl early =>
        have first := early.events ⟨event, response⟩ (by simp [posted])
        rw [not_early_of_readsIdentity reads] at first
        cases first
    | inr known =>
        rw [Known, none] at known
        exact Nat.not_lt_zero _ known

theorem outstanding_store (idle : books.network = .idle) :
    (books.store stored response).outstanding service =
      books.outstanding service + if stored = service then 1 else 0 := by
  simp only [outstanding, pending, arriving, store, idle]
  omega

theorem length_store : ((books.store stored response).answers service).length =
    (books.answers service).length + if stored = service then 1 else 0 := by
  by_cases same : service = stored
  · subst same
    simp [store]
  · simp [store, same, Ne.symm same]

theorem outstanding_call (executes : books.network = .execute executed response)
    (slots : ∀ callback, books.slot executed = some callback →
      callback.event.completes = some executed) :
    (books.call executed response).outstanding service ≤ books.outstanding service := by
  have after : (books.call executed response).arriving service = 0 := by
    cases executed <;> rfl
  have before : books.arriving service = if executed = service then 1 else 0 := by
    simp only [arriving, executes]
  rw [outstanding, outstanding, after, before]
  cases set : books.slot executed with
  | none => simp [pending, call, set]
  | some callback =>
      simp [pending, call, set, List.countP_append, List.countP_singleton, slots callback set]
      omega

theorem outstanding_clear (clears : books.network = .clear cleared) :
    (books.clear cleared).outstanding service = books.outstanding service := by
  simp only [outstanding, pending, arriving, clear, clears]

theorem outstanding_send (frames : books.frames = .send message :: rest) :
    { books with frames := rest, sent := books.sent ++ [message] }.outstanding service =
      books.outstanding service := by
  simp [outstanding, pending, arriving, frames, Frame.holds]

theorem outstanding_close (frames : books.frames = .messageBox text none response :: rest) :
    { books with frames := rest }.outstanding service = books.outstanding service := by
  simp [outstanding, pending, arriving, frames, Frame.holds]

theorem weight_clicked (page : event.clickedLoginPage ∨ event.clickedInside) :
    weight event service = 0 := by
  have clicked : event.completes = none := by
    cases event with
    | loginClickedLogin | registerClickedRegister | createRoomClickedLobby | joinRoomClickedLobby
    | refreshClickedLobby | sendChatClickedRoom | leaveRoomClickedRoom => rfl
    | _ => simp [UIEvent.clickedLoginPage, UIEvent.clickedInside] at page
  simp [weight, clicked]

variable {taken : Event} {after : Books}

/-- The answers that no event takes never become fewer. -/
theorem Move.surplus (moved : books.Move taken after) (sound : books.Sound) (service : Service) :
    (books.answers service).length + after.outstanding service ≤
      (after.answers service).length + books.outstanding service := by
  cases moved with
  | still => exact Nat.le_refl _
  | click _ page =>
      rw [outstanding_post, weight_clicked (page.imp_right And.left)]
      exact Nat.le_refl _
  | dispatch _ posted handled =>
      have balanced := sound.balanced service
      rw [outstanding_of_posted posted] at balanced ⊢
      exact handled.surplus (sound.safe posted) balanced
  | send frames => exact Nat.add_le_add_left (Nat.le_of_eq (outstanding_send frames)) _
  | close frames => exact Nat.add_le_add_left (Nat.le_of_eq (outstanding_close frames)) _
  | pop frames =>
      have balanced := sound.balanced service
      rw [outstanding_of_frames frames] at balanced ⊢
      rw [outstanding_pop, outstanding_reading]
      exact surplus_pop balanced
  | receive idle =>
      rw [outstanding_store idle, length_store]
      omega
  | call executes =>
      exact Nat.add_le_add_left (outstanding_call executes (sound.slots _)) _
  | clear clears => exact Nat.add_le_add_left (Nat.le_of_eq (outstanding_clear clears)) _

/-- A request sets a callback of its own service. -/
theorem completes_of_issues {issue : Issue} (issues : event.issues = some issue) :
    issue.completion.completes = some issue.service := by
  cases event <;> cases issues <;> rfl

theorem early_of_issues {issue : Issue} (first : early event) (issues : event.issues = some issue) :
    early issue.completion := by
  cases event with
  | loginClickedLogin | registerClickedRegister =>
      cases issues
      rfl
  | loginCompletedLogin | registerCompletedRegister | registerCompletedLobby | sendChatCompletedRoom
  | refreshRoomCompleted => cases issues
  | _ => cases first

theorem not_enters_of_early (first : early event) : event.enters = false := by
  cases event with
  | loginCompletedLobby | leaveRoomCompletedLobby | createRoomCompletedRoom
  | joinRoomCompletedRoom => cases first
  | _ => rfl

theorem Early.of_same {after : Books} (early : books.Early) (posted : after.posted = books.posted)
    (slot : after.slot = books.slot) (inside : after.inside = true → books.inside = true) :
    after.Early where
  outside := by
    rw [Bool.eq_false_iff]
    intro shown
    rw [early.outside] at inside
    cases inside shown
  events := by rw [posted]; exact early.events
  slots := by rw [slot]; exact early.slots

/-- Setting one callback keeps what holds of all callbacks. -/
theorem forall_update {Holds : Service → Callback → Prop} {slot : Service → Option Callback}
    {set : Service}
    (all : ∀ service callback, slot service = some callback → Holds service callback)
    (own : Holds set installed) (service : Service) (callback : Callback)
    (found : Function.update slot set (some installed) service = some callback) :
    Holds service callback := by
  by_cases same : service = set
  · subst same
    rw [Function.update_self] at found
    cases found
    exact own
  · rw [Function.update_of_ne same] at found
    exact all service callback found

theorem Handles.slots (handled : books.Handles event response after) (safe : ¬ books.Fires event)
    (slots : ∀ service callback, books.slot service = some callback →
      callback.event.completes = some service) :
    ∀ service callback, after.slot service = some callback →
      callback.event.completes = some service := by
  cases handled with
  | request issues => exact forall_update slots (completes_of_issues issues)
  | enterLobby => exact forall_update slots rfl
  | forward | leave | report | registered | take | ignore => exact slots
  | crash fired => exact absurd fired safe

/-- Until the login succeeds only events of the login page are handled. -/
theorem Handles.stage (handled : books.Handles event response after) (safe : ¬ books.Fires event)
    (balanced : books.outstanding .auth + weight event .auth ≤ (books.answers .auth).length)
    (first : early event) (stage : books.Early) : after.Early ∨ after.Known := by
  have outside : ∀ shown : Bool, (shown = true → books.inside = true ∨ event.enters = true) →
      shown = true → books.inside = true := by
    intro shown pages displayed
    rcases pages displayed with inside | enters
    · exact inside
    · rw [not_enters_of_early first] at enters
      cases enters
  cases handled with
  | @request _ _ shown issues _ _ _ pages =>
      have displayed : (books.display shown).Early := stage.of_same rfl rfl (outside shown pages)
      exact .inl ⟨displayed.outside, displayed.events,
        forall_update displayed.slots (early_of_issues first issues)⟩
  | enterLobby entered =>
      subst entered
      cases first
  | @forward _ _ shown _ forwards =>
      cases event with
      | loginCompletedLogin =>
          cases forwards
          right
          rw [Known, outstanding_post, outstanding_display, outstanding_reading]
          exact balanced
      | createRoomCompletedLobby => cases first
      | joinRoomCompletedLobby => cases first
      | _ => cases forwards
  | leave left =>
      subst left
      cases first
  | report => exact .inl (stage.of_same rfl rfl id)
  | registered => exact .inl (stage.of_same rfl rfl id)
  | take _ _ pages => exact .inl (stage.of_same rfl rfl (outside _ pages))
  | ignore => exact .inl stage
  | crash fired => exact absurd fired safe

theorem early_of_login (login : event.clickedLoginPage) : early event := by
  cases event with
  | loginClickedLogin | registerClickedRegister => rfl
  | _ => cases login

theorem of_update_none {slot : Service → Option Callback}
    (found : Function.update slot cleared none service = some callback) :
    slot service = some callback := by
  by_cases same : service = cleared
  · subst same
    rw [Function.update_self] at found
    cases found
  · rwa [Function.update_of_ne same] at found

theorem Handles.running (handled : books.Handles event response after)
    (safe : ¬ books.Fires event) : after.crashed = books.crashed := by
  cases handled with
  | crash fired => exact absurd fired safe
  | _ => rfl

/-- Events of the login page are handled until the login succeeds. -/
theorem Move.stage (moved : books.Move taken after) (sound : books.Sound) (stage : books.Early) :
    after.Early ∨ after.Known := by
  cases moved with
  | still => exact .inl stage
  | click _ page =>
      left
      rcases page with login | ⟨_, inside⟩
      · refine ⟨stage.outside, ?_, stage.slots⟩
        intro posted member
        rcases List.mem_append.mp member with old | new
        · exact stage.events posted old
        · rw [List.mem_singleton.mp new]
          exact early_of_login login
      · rw [stage.outside] at inside
        cases inside
  | @dispatch _ _ rest _ _ posted handled =>
      have balanced := sound.balanced .auth
      rw [outstanding_of_posted posted] at balanced
      have first := stage.events _ (posted ▸ List.mem_cons_self)
      have later : ∀ queued ∈ rest, early queued.event := fun queued member =>
        stage.events queued (posted ▸ List.mem_cons_of_mem _ member)
      exact handled.stage (sound.safe posted) balanced first ⟨stage.outside, later, stage.slots⟩
  | send => exact .inl (stage.of_same rfl rfl id)
  | close => exact .inl (stage.of_same rfl rfl id)
  | pop => exact .inl (stage.of_same rfl rfl id)
  | receive => exact .inl (stage.of_same rfl rfl id)
  | call =>
      left
      refine ⟨stage.outside, ?_, stage.slots⟩
      intro posted member
      rcases List.mem_append.mp member with old | new
      · exact stage.events posted old
      · obtain ⟨callback, set, rfl⟩ := Option.map_eq_some_iff.mp (Option.mem_toList.mp new)
        exact stage.slots _ callback set
  | clear =>
      left
      refine ⟨stage.outside, stage.events, ?_⟩
      intro service callback set
      exact stage.slots service callback (of_update_none set)

theorem Move.slots (moved : books.Move taken after) (sound : books.Sound) :
    ∀ service callback, after.slot service = some callback →
      callback.event.completes = some service := by
  cases moved with
  | dispatch _ posted handled => exact handled.slots (sound.safe posted) sound.slots
  | clear => exact fun service callback set => sound.slots service callback (of_update_none set)
  | _ => exact sound.slots

theorem Move.running (moved : books.Move taken after) (sound : books.Sound) :
    after.crashed = false := by
  cases moved with
  | dispatch _ posted handled =>
      rw [handled.running (sound.safe posted)]
      exact sound.running
  | _ => exact sound.running

theorem Sound.move (sound : books.Sound) (moved : books.Move taken after) : after.Sound where
  slots := moved.slots sound
  balanced service := by
    have kept := moved.surplus sound service
    have enough := sound.balanced service
    omega
  stage := by
    cases sound.stage with
    | inl stage => exact moved.stage sound stage
    | inr known =>
        right
        have kept := moved.surplus sound .auth
        rw [Known] at known ⊢
        omega
  running := moved.running sound

end Books

/-- The entries of `ResponseQ<T>`. -/
def entries (self : MainDialog) (service : Service) : Nat := (self.channel service).queue.length

/-- The next event is `LoginCompleted_Login`, and its handler finds a success. -/
def LogsIn (self : MainDialog) : Prop :=
  (∃ response rest, self.posted = ⟨.loginCompletedLogin, response⟩ :: rest) ∧
    ∃ data, self.front .auth = some data ∧ data.isSuccess = true

theorem length_answers (self : MainDialog) (service : Service) :
    (self.books.answers service).length = self.entries service := List.length_map _

theorem start_sound : start.books.Sound where
  slots service callback set := by
    cases service with
    | chatLog | refreshRoom =>
        cases set
        rfl
    | _ => cases set
  balanced service := Nat.zero_le _
  stage := .inl
    { outside := rfl
      events := nofun
      slots := by
        intro service callback set
        cases service with
        | chatLog | refreshRoom =>
            cases set
            rfl
        | _ => cases set }
  running := rfl

theorem run_sound (ran : system.run events before = some after) (sound : before.books.Sound) :
    after.books.Sound := by
  have keeps : ∀ {event : Event} {before after : MainDialog},
      system.step event before = some after →
      before.books.Sound → after.books.Sound := fun stepped sound => sound.move (step_move stepped)
  exact System.run_preserves keeps ran sound

theorem run_surplus {events : List Event} {before after : MainDialog}
    (ran : system.run events before = some after) (sound : before.books.Sound) (service : Service) :
    (before.books.answers service).length + after.books.outstanding service ≤
      (after.books.answers service).length + before.books.outstanding service := by
  induction events generalizing before with
  | nil =>
      cases ran
      exact Nat.le_refl _
  | cons event rest ih =>
      obtain ⟨next, stepped, remaining⟩ := System.run_cons_some.mp ran
      have moved := step_move stepped
      have now := moved.surplus sound service
      have later := ih remaining (sound.move moved)
      omega

theorem known_of_logsIn {before : MainDialog} (sound : before.books.Sound) (logs : before.LogsIn)
    (stepped : system.step .dispatch before = some after) : after.books.Known := by
  obtain ⟨⟨response, rest, posted⟩, data, found, success⟩ := logs
  obtain ⟨_, stepped⟩ := Option.ite_none_left_eq_some.mp stepped
  obtain ⟨_, dispatched⟩ := Option.ite_none_right_eq_some.mp stepped
  simp only [dispatch, posted, Option.some.injEq] at dispatched
  subst dispatched
  have front : ({ before with posted := rest }.reading .auth response).front .auth =
    some data := found
  have balanced := sound.balanced .auth
  rw [Books.outstanding_of_posted posted] at balanced
  simp only [execute, LoginHandler.onLoginCompleted, front, success, if_true]
  have counted : ({ before with posted := rest, loginPage.shown := false }.books.post
      .loginCompletedLobby response).outstanding .auth = _ := Books.outstanding_post
  exact Nat.lt_of_le_of_lt (Nat.le_of_eq counted) balanced

theorem assertions_hold {first last : List Event} {middle after : MainDialog}
    (ran : system.run first start = some middle) (continued : system.run last middle = some after) :
    after.crashed = false ∧
      (∀ service, after.books.pending service + after.books.arriving service ≤
        after.entries service) ∧
      middle.entries .auth + (after.books.pending .auth + after.books.arriving .auth) ≤
        after.entries .auth + (middle.books.pending .auth + middle.books.arriving .auth) ∧
      (∀ rest, last = .dispatch :: rest → middle.LogsIn →
        1 + (after.books.pending .auth + after.books.arriving .auth) ≤ after.entries .auth) := by
  have before := run_sound ran start_sound
  have sound := run_sound continued before
  refine ⟨sound.running, ?_, ?_, ?_⟩
  · intro service
    rw [← length_answers]
    exact sound.balanced service
  · rw [← length_answers, ← length_answers]
    exact run_surplus continued before .auth
  · intro rest split logs
    subst split
    obtain ⟨next, stepped, remaining⟩ := System.run_cons_some.mp continued
    have known := known_of_logsIn before logs stepped
    have later := run_surplus remaining (before.move (step_move stepped)) .auth
    rw [← length_answers]
    rw [Books.Known] at known
    have counted : after.books.outstanding .auth =
      after.books.pending .auth + after.books.arriving .auth := rfl
    omega

theorem assertions_hold_login :
    let login : List Event := [.click (.login "kim" "1"), .dispatch, .resume,
      .receive (.sLogin true "kim" "1"), .network, .network]
    ∃ middle after : MainDialog, system.run login start = some middle ∧
      system.run [.dispatch, .dispatch, .resume] middle = some after ∧ middle.LogsIn ∧
      after.crashed = false ∧
      1 + (after.books.pending .auth + after.books.arriving .auth) ≤ after.entries .auth := by
  intro login
  refine ⟨_, _, rfl, rfl, ⟨⟨_, _, rfl⟩, _, rfl, rfl⟩, ?_⟩
  have holds := @assertions_hold login [.dispatch, .dispatch, .resume] _ _ rfl rfl
  exact ⟨holds.1, holds.2.2.2 _ rfl ⟨⟨_, _, rfl⟩, _, rfl, rfl⟩⟩

end ChattingProgram.Client.MainDialog

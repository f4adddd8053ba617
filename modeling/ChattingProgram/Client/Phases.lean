import ChattingProgram.Client.Assertions

namespace ChattingProgram.Client.MainDialog

open ChattingProgram.Protocol ChattingProgram.Machine

/-! # The phases of a request

A request sets the callback of its service and is sent; its answer is stored, runs
the callback and clears it.  A step that does not concern a service leaves its
last request in the phase in which it is.
-/

/-- The service of a request. -/
def requested : PacketType → Option Service
  | .cLogin | .cRegister => some .auth
  | .cRefreshLobby => some .refreshLobby
  | .cCreateRoom => some .createRoom
  | .cJoinRoom => some .joinRoom
  | .cChatLog => some .chatLog
  | .cRoomOut => some .roomOut
  | _ => none

/-- The event that reports the answer to a request. -/
def completion : PacketType → Option UIEvent
  | .cLogin => some .loginCompletedLogin
  | .cRegister => some .registerCompletedRegister
  | .cRefreshLobby => some .refreshCompletedLobby
  | .cCreateRoom => some .createRoomCompletedLobby
  | .cJoinRoom => some .joinRoomCompletedLobby
  | .cChatLog => some .sendChatCompletedRoom
  | .cRoomOut => some .leaveRoomCompletedRoom
  | _ => none

/-- More than one handler reads an answer, or one reads it twice. -/
def Service.rereads : Service → Bool
  | .auth | .createRoom | .joinRoom => true
  | _ => false

/-- The service whose answer the handler of an event reads. -/
def UIEvent.reads : UIEvent → Option Service
  | .loginCompletedLobby => some .auth
  | .leaveRoomCompletedRoom | .leaveRoomCompletedLobby => none
  | event => event.completes

theorem issues_request {event : UIEvent} (issues : event.issues = some issue) :
    requested issue.type = some issue.service ∧ completion issue.type = some issue.completion := by
  cases event <;> cases issues <;> exact ⟨rfl, rfl⟩

/-- An answer is stored for the service of its request. -/
theorem incoming_requested {service : Service} {data : service.Data}
    (stores : incoming message = some ⟨service, data⟩) :
    (requestType message.type).bind requested = if service.isClear then some service else none := by
  cases message <;> cases stores <;> rfl

namespace Books

/-- A request of the service that has no answer yet. -/
def Unanswered (books : Books) (service : Service) (request : RequestNumber) : Prop :=
  (books.sent[request]?.map Message.type).bind requested = some service ∧ request ∉ books.answered

/-- The thread of the network is not in `Execute` of the service. -/
def Away (books : Books) (service : Service) : Prop :=
  books.network ≠ .clear service ∧ ∀ response, books.network ≠ .execute service response

/-- The service is ready for a request. -/
structure Free (books : Books) (service : Service) : Prop where
  closed : ∀ request, ¬ books.Unanswered service request
  away : books.Away service
  taken : service.rereads → books.answers service = []

/-- No request of the service is about to be sent. -/
def Unsent (books : Books) (service : Service) : Prop :=
  ∀ message rest, books.frames = .send message :: rest → requested message.type ≠ some service

/-- A callback and the request that set it. -/
structure Installed (books : Books) (service : Service) (request : RequestNumber)
    (message : Message) : Prop where
  requested : requested message.type = some service
  slot : ∃ event, completion message.type = some event ∧
    books.slot service = some ⟨event, some request⟩

/-- Where the last request of a service is. -/
inductive Phase (books : Books) (service : Service) : Prop
  | quiet (closed : ∀ request, ¬ books.Unanswered service request) (unsent : books.Unsent service)
      (away : books.Away service)
  | sending {message rest} (frames : books.frames = .send message :: rest)
      (installed : books.Installed service books.sent.length message)
      (free : books.Free service)
  | waiting {request message} (sent : books.sent[request]? = some message)
      (installed : books.Installed service request message)
      (only : ∀ other, books.Unanswered service other ↔ other = request)
      (unsent : books.Unsent service) (away : books.Away service)
      (taken : service.rereads → books.answers service = [])
  | arrived {request message} (network : books.network = .execute service (some request))
      (sent : books.sent[request]? = some message)
      (installed : books.Installed service request message)
      (closed : ∀ request, ¬ books.Unanswered service request) (unsent : books.Unsent service)
  | clearing (network : books.network = .clear service)
      (closed : ∀ request, ¬ books.Unanswered service request) (unsent : books.Unsent service)

variable {books after : Books} {service : Service}

theorem unsent_of_pumping (pumping : books.pumping) : books.Unsent service :=
  fun message rest frames => absurd frames (pumping message rest)

/-- What a step leaves alone when it does not concern the requests of a service. -/
structure Leaves (books after : Books) (service : Service) : Prop where
  slot : after.slot service = books.slot service
  sent : ∀ {request : RequestNumber} {message : Message},
    books.sent[request]? = some message → after.sent[request]? = some message
  unanswered : ∀ request, after.Unanswered service request ↔ books.Unanswered service request
  network : after.network = books.network ∨ books.Away service ∧ after.Away service
  drained : books.answers service = [] → after.answers service = []
  frames : after.frames = books.frames ∧ after.sent = books.sent ∨ books.Unsent service ∧
    after.Unsent service

theorem Leaves.closed (leaves : books.Leaves after service)
    (closed : ∀ request, ¬ books.Unanswered service request) :
    ∀ request, ¬ after.Unanswered service request :=
  fun request => (leaves.unanswered request).not.mpr (closed request)

theorem Leaves.away (leaves : books.Leaves after service) (away : books.Away service) :
    after.Away service := by
  rcases leaves.network with same | ⟨_, gone⟩
  · rw [Away, same]
    exact away
  · exact gone

theorem Leaves.at_network (leaves : books.Leaves after service) (present : ¬ books.Away service) :
    after.network = books.network := by
  rcases leaves.network with same | ⟨gone, _⟩
  · exact same
  · exact absurd gone present

theorem Leaves.unsent (leaves : books.Leaves after service) (unsent : books.Unsent service) :
    after.Unsent service := by
  rcases leaves.frames with ⟨same, _⟩ | ⟨_, still⟩
  · rw [Unsent, same]
    exact unsent
  · exact still

theorem Leaves.installed (leaves : books.Leaves after service)
    (installed : books.Installed service request message) :
    after.Installed service request message where
  requested := installed.requested
  slot := by rw [leaves.slot]; exact installed.slot

theorem Leaves.phase (leaves : books.Leaves after service) (phase : books.Phase service) :
    after.Phase service := by
  cases phase with
  | quiet closed unsent away =>
      exact .quiet (leaves.closed closed) (leaves.unsent unsent) (leaves.away away)
  | sending frames installed free =>
      rcases leaves.frames with ⟨same, sent⟩ | ⟨unsent, _⟩
      · refine .sending (same.trans frames) ?_ ?_
        · rw [sent]
          exact leaves.installed installed
        · exact ⟨leaves.closed free.closed, leaves.away free.away,
            fun rereads => leaves.drained (free.taken rereads)⟩
      · exact absurd installed.requested (unsent _ _ frames)
  | waiting sent installed only unsent away taken =>
      exact .waiting (leaves.sent sent) (leaves.installed installed)
        (fun other => (leaves.unanswered other).trans (only other)) (leaves.unsent unsent)
        (leaves.away away) (fun rereads => leaves.drained (taken rereads))
  | arrived network sent installed closed unsent =>
      have same := leaves.at_network (fun away => away.2 _ network)
      exact .arrived (same.trans network) (leaves.sent sent) (leaves.installed installed)
        (leaves.closed closed) (leaves.unsent unsent)
  | clearing network closed unsent =>
      have same := leaves.at_network (fun away => away.1 network)
      exact .clearing (same.trans network) (leaves.closed closed) (leaves.unsent unsent)

/-- A step of the user interface that makes no request. -/
theorem Phase.pumped (phase : books.Phase service) (pumping : books.pumping)
    (pumps : after.pumping) (slot : after.slot = books.slot) (sent : after.sent = books.sent)
    (answered : after.answered = books.answered) (network : after.network = books.network)
    (drained : books.answers service = [] → after.answers service = []) : after.Phase service := by
  have leaves : books.Leaves after service :=
    { slot := by rw [slot]
      sent := by
        intro request message found
        rw [sent]
        exact found
      unanswered := by
        intro request
        rw [Unanswered, Unanswered, sent, answered]
      network := .inl network
      drained
      frames := .inr ⟨unsent_of_pumping pumping, unsent_of_pumping pumps⟩ }
  exact leaves.phase phase

theorem Leaves.of_issue {issue : Issue} {message : Message} (pumping : books.pumping)
    (typed : requested message.type = some issue.service) (other : service ≠ issue.service) :
    books.Leaves (books.issue issue message) service where
  slot := Function.update_of_ne other _ _
  sent found := found
  unanswered _ := Iff.rfl
  network := .inl rfl
  drained empty := empty
  frames := by
    refine .inr ⟨unsent_of_pumping pumping, ?_⟩
    intro sending rest frames same
    cases frames
    exact other (Option.some.inj (same.symm.trans typed))

/-- A request of a service that is ready for one. -/
theorem Phase.of_issue {issue : Issue} {message : Message} (free : books.Free issue.service)
    (typed : requested message.type = some issue.service)
    (completes : completion message.type = some issue.completion) :
    (books.issue issue message).Phase issue.service :=
  .sending rfl ⟨typed, issue.completion, completes, Function.update_self _ _ _⟩
    ⟨free.closed, free.away, free.taken⟩

section Sending

variable {message : Message} {rest : List Frame}

/-- The books after `Send`. -/
def dispatched (books : Books) (message : Message) (rest : List Frame) : Books :=
  { books with frames := rest, sent := books.sent ++ [message] }

theorem unanswered_dispatched :
    (books.dispatched message rest).Unanswered service request ↔ books.Unanswered service request ∨
      request = books.sent.length ∧ requested message.type = some service ∧
        request ∉ books.answered := by
  rcases Nat.lt_trichotomy request books.sent.length with earlier | rfl | later
  · have distinct : request ≠ books.sent.length := Nat.ne_of_lt earlier
    simp [Unanswered, dispatched, List.getElem?_append_left earlier, distinct]
  · simp [Unanswered, dispatched]
  · have distinct : request ≠ books.sent.length := Nat.ne_of_gt later
    have absent : books.sent[request]? = none := List.getElem?_eq_none (Nat.le_of_lt later)
    have beyond : (books.sent ++ [message])[request]? = none := by
      apply List.getElem?_eq_none
      rw [List.length_append]
      exact later
    simp [Unanswered, dispatched, distinct, absent, beyond]

theorem Leaves.of_send (frames : books.frames = .send message :: rest)
    (other : requested message.type ≠ some service)
    (pumps : (books.dispatched message rest).pumping) :
    books.Leaves (books.dispatched message rest) service where
  slot := rfl
  sent found := by
    have before := (List.getElem?_eq_some_iff.mp found).1
    exact (List.getElem?_append_left before).trans found
  unanswered request := by
    rw [unanswered_dispatched]
    simp [other]
  network := .inl rfl
  drained empty := empty
  frames := by
    refine .inr ⟨?_, unsent_of_pumping pumps⟩
    intro sending remaining top
    cases frames.symm.trans top
    exact other

theorem Phase.of_send (phase : books.Phase service)
    (frames : books.frames = .send message :: rest) (own : requested message.type = some service)
    (pumps : (books.dispatched message rest).pumping) (fresh : books.sent.length ∉ books.answered) :
    (books.dispatched message rest).Phase service := by
  cases phase with
  | @sending sending _ top installed free =>
      cases frames.symm.trans top
      refine .waiting (by simp [dispatched]) ⟨own, installed.slot⟩ ?_ (unsent_of_pumping pumps)
        free.away free.taken
      intro other
      rw [unanswered_dispatched]
      constructor
      · rintro (earlier | ⟨last, _⟩)
        · exact absurd earlier (free.closed other)
        · exact last
      · intro last
        subst last
        exact .inr ⟨rfl, own, fresh⟩
  | quiet _ unsent => exact absurd own (unsent _ _ frames)
  | waiting _ _ _ unsent => exact absurd own (unsent _ _ frames)
  | arrived _ _ _ _ unsent => exact absurd own (unsent _ _ frames)
  | clearing _ _ unsent => exact absurd own (unsent _ _ frames)

end Sending

section Network

variable {response : Option RequestNumber} {executed : Service}

theorem Leaves.of_store (idle : books.network = .idle) (other : service ≠ executed)
    (foreign : ∀ request, response = some request → ¬ books.Unanswered service request) :
    books.Leaves (books.store executed response) service where
  slot := rfl
  sent found := found
  unanswered request := by
    have answered : request ∈ (books.store executed response).answered ↔
        request ∈ books.answered ∨ response = some request := by
      simp [store]
    constructor
    · intro unanswered
      exact ⟨unanswered.1, fun member => unanswered.2 (answered.mpr (.inl member))⟩
    · intro unanswered
      refine ⟨unanswered.1, fun member => ?_⟩
      rcases answered.mp member with before | now
      · exact unanswered.2 before
      · exact foreign request now unanswered
  network := by
    refine .inr ⟨by simp [Away, idle], ?_, ?_⟩
    · simp [store]
    · intro found same
      cases same
      exact other rfl
  drained empty := by
    rw [store]
    exact (Function.update_of_ne other _ _).trans empty
  frames := .inl ⟨rfl, rfl⟩

theorem Phase.of_store (phase : books.Phase service)
    (unanswered : books.Unanswered service request) :
    (books.store service (some request)).Phase service := by
  cases phase with
  | waiting sent installed only unsent away taken =>
      cases (only request).mp unanswered
      refine .arrived rfl sent ⟨installed.requested, installed.slot⟩ ?_ unsent
      intro other remaining
      have before : books.Unanswered service other :=
        ⟨remaining.1, fun member => remaining.2 (List.mem_append_left _ member)⟩
      cases (only other).mp before
      exact remaining.2 (List.mem_append_right _ List.mem_cons_self)
  | quiet closed => exact absurd unanswered (closed request)
  | sending _ _ free => exact absurd unanswered (free.closed request)
  | arrived _ _ _ closed => exact absurd unanswered (closed request)
  | clearing _ closed => exact absurd unanswered (closed request)

theorem Leaves.of_call (executes : books.network = .execute executed response)
    (other : service ≠ executed) : books.Leaves (books.call executed response) service where
  slot := rfl
  sent found := found
  unanswered _ := Iff.rfl
  network := by
    refine .inr ⟨?_, ?_⟩
    · rw [Away, executes]
      exact ⟨nofun, fun _ same => other (by cases same; rfl)⟩
    · have clears : ∀ clear : Bool, (if clear then Network.clear executed else .idle) ≠
          .clear service ∧
          ∀ response, (if clear then Network.clear executed else .idle) ≠
              .execute service response := by
        intro clear
        cases clear with
        | false => exact ⟨nofun, nofun⟩
        | true => exact ⟨fun same => other (by cases same; rfl), nofun⟩
      exact clears executed.isClear
  drained empty := empty
  frames := .inl ⟨rfl, rfl⟩

theorem Phase.of_call (phase : books.Phase service)
    (executes : books.network = .execute service response) (clears : service.isClear) :
    (books.call service response).Phase service := by
  have network : (books.call service response).network = .clear service := if_pos clears
  cases phase with
  | arrived _ _ _ closed unsent => exact .clearing network closed unsent
  | quiet _ _ away => exact absurd executes (away.2 _)
  | sending _ _ free => exact absurd executes (free.away.2 _)
  | waiting _ _ _ _ away => exact absurd executes (away.2 _)
  | clearing waits => cases executes.symm.trans waits

theorem Leaves.of_clear (clears : books.network = .clear executed) (other : service ≠ executed) :
    books.Leaves (books.clear executed) service where
  slot := Function.update_of_ne other _ _
  sent found := found
  unanswered _ := Iff.rfl
  network := by
    refine .inr ⟨?_, nofun, nofun⟩
    rw [Away, clears]
    exact ⟨fun same => other (by cases same; rfl), nofun⟩
  drained empty := empty
  frames := .inl ⟨rfl, rfl⟩

theorem Phase.of_clear (phase : books.Phase service) (clears : books.network = .clear service) :
    (books.clear service).Phase service := by
  cases phase with
  | clearing _ closed unsent => exact .quiet closed unsent ⟨nofun, nofun⟩
  | quiet _ _ away => exact absurd clears away.1
  | sending _ _ free => exact absurd clears free.away.1
  | waiting _ _ _ _ away => exact absurd clears away.1
  | arrived network => cases clears.symm.trans network

end Network

theorem pumping_messageBox : (books.messageBox text pops response).pumping := by
  intro message rest frames
  cases frames

theorem drained_pop (empty : books.answers service = []) :
    (books.pop popped).answers service = [] := by
  by_cases same : service = popped
  · subst same
    simp [pop, empty]
  · simp [pop, same, empty]

theorem Phase.issue {issue : Issue} {message : Message} (phase : books.Phase service)
    (pumping : books.pumping) (typed : requested message.type = some issue.service)
    (completes : completion message.type = some issue.completion)
    (free : issue.service = service → books.Free issue.service) :
    (books.issue issue message).Phase service := by
  by_cases same : issue.service = service
  · subst same
    exact .of_issue (free rfl) typed completes
  · exact (Leaves.of_issue pumping typed (Ne.symm same)).phase phase

/-- A handler makes a request only for a service that is ready for one. -/
theorem Handles.phase (handled : books.Handles event response after) (safe : ¬ books.Fires event)
    (pumping : books.pumping)
    (free : ∀ issue, event.issues = some issue → issue.service = service → books.Free issue.service)
    (phase : books.Phase service) : after.Phase service := by
  cases handled with
  | @request issue message shown issues typed =>
      have kept : (books.display shown).Phase service :=
        phase.pumped pumping pumping rfl rfl rfl rfl id
      obtain ⟨own, completes⟩ := issues_request issues
      rw [← typed] at own completes
      refine kept.issue pumping own completes ?_
      intro same
      have ready := free issue issues same
      exact ⟨ready.closed, ready.away, ready.taken⟩
  | @enterLobby entered message typed =>
      subst entered
      have kept : ((books.reading .auth response).display true).Phase service :=
        phase.pumped pumping pumping rfl rfl rfl rfl id
      refine kept.issue pumping (by rw [typed]; rfl) (by rw [typed]; rfl) ?_
      intro same
      have ready := free _ rfl same
      exact ⟨ready.closed, ready.away, ready.taken⟩
  | forward => exact phase.pumped pumping pumping rfl rfl rfl rfl id
  | leave => exact phase.pumped pumping pumping rfl rfl rfl rfl id
  | report => exact phase.pumped pumping pumping_messageBox rfl rfl rfl rfl id
  | registered => exact phase.pumped pumping pumping_messageBox rfl rfl rfl rfl drained_pop
  | take => exact phase.pumped pumping pumping rfl rfl rfl rfl drained_pop
  | ignore => exact phase
  | crash fired => exact absurd fired safe

/-- `Send` follows at once on setting the callback, so that only the innermost handler is at it. -/
def Nested (books : Books) : Prop := ∀ frame ∈ books.frames.tail, ∀ message, frame ≠ .send message

theorem Nested.pumping (nested : books.Nested) (frames : books.frames = frame :: rest)
    (shown : after.frames = rest) : after.pumping := by
  intro message remaining top
  have below : Frame.send message ∈ books.frames.tail := by
    rw [frames, List.tail_cons, ← shown, top]
    exact List.mem_cons_self
  exact nested _ below message rfl

end Books

end ChattingProgram.Client.MainDialog

import ChattingProgram.Client.Holders
import Mathlib.Data.List.Nodup

namespace ChattingProgram.Client.MainDialog

open ChattingProgram.Protocol ChattingProgram.Machine

/-! # Answers and the requests they belong to

The callback of a service belongs to the last request, the answer to the first
one without an answer.  They agree as long as a request is made only when the
one before it has been answered, and where the handlers leave the answer in the
queue for a while, when it has been taken.
-/

namespace Books

variable {books after : Books} {service : Service} {event : UIEvent}
  {response : Option RequestNumber}

/-- What a step has to meet: a request is made only for a service that is ready for one, and
an answer belongs to a request. -/
def Prompt (books : Books) : Event → Prop
  | .dispatch =>
      ∀ posted rest, books.posted = posted :: rest → ∀ issue, posted.event.issues = some issue →
          issue.service.isClear → books.Free issue.service
  | .receive message => requestType message.type ≠ none → books.answering message ≠ none
  | _ => True

/-- A callback that the request of the answer set. -/
def Own (books : Books) (call : Call) : Prop :=
  ∃ request message event, books.sent[request]? = some message ∧ call.response = some request ∧
    completion message.type = some event ∧ call.callback = some ⟨event, some request⟩

/-- The answers to the requests of one-shot services that have been executed or are next. -/
def finished (books : Books) : List (Option RequestNumber) :=
  (books.calls.filter (·.service.isClear)).map Call.response ++
    match books.network with
    | .execute service response => if service.isClear then [response] else []
    | _ => []

structure Aligned (books : Books) : Prop where
  sound : books.Sound
  nested : books.Nested
  bounded : ∀ request ∈ books.answered, request < books.sent.length
  phase : ∀ service : Service, service.isClear → books.Phase service
  held : ∀ service : Service, service.rereads → books.Held service
  lined : books.Lined
  own : ∀ call ∈ books.calls, call.service.isClear → books.Own call
  finished : books.finished = books.answered.map some
  distinct : books.answered.Nodup
  read : ∀ reading ∈ books.readings, reading.service.isClear → reading.found = some reading.response

section Answering

variable {message : Message}

theorem answering_spec (answers : some request = books.answering message) :
    request < books.sent.length ∧ request ∉ books.answered ∧
      books.sent[request]?.map Message.type = requestType message.type := by
  have found := List.find?_some answers.symm
  have member := List.mem_of_find?_eq_some answers.symm
  exact ⟨List.mem_range.mp member, of_decide_eq_true found⟩

theorem unanswered_of_answering {stored : Service} {data : stored.Data}
    (stores : incoming message = some ⟨stored, data⟩) (clears : stored.isClear)
    (answers : some request = books.answering message) : books.Unanswered stored request := by
  obtain ⟨_, fresh, typed⟩ := answering_spec answers
  have asked := incoming_requested stores
  rw [if_pos clears] at asked
  exact ⟨by rw [typed]; exact asked, fresh⟩

theorem foreign_of_answering {stored : Service} {data : stored.Data}
    (stores : incoming message = some ⟨stored, data⟩) (other : service ≠ stored)
    (answers : some request = books.answering message) : ¬ books.Unanswered service request := by
  intro unanswered
  obtain ⟨_, _, typed⟩ := answering_spec answers
  have asked := incoming_requested stores
  rw [← typed, unanswered.1] at asked
  split at asked
  · exact other (Option.some.inj asked)
  · cases asked

/-- The services that are always subscribed have no requests of their own. -/
theorem answering_of_subscribed {stored : Service} {data : stored.Data}
    (stores : incoming message = some ⟨stored, data⟩) (subscribed : ¬ stored.isClear) :
    books.answering message = none := by
  have type : requestType message.type = none := by
    cases message <;> cases stores <;> first | rfl | exact absurd rfl subscribed
  rw [answering, List.find?_eq_none]
  intro request member answers
  obtain ⟨_, typed⟩ := of_decide_eq_true answers
  rw [type, Option.map_eq_none_iff, List.getElem?_eq_none_iff] at typed
  exact Nat.not_lt.mpr typed (List.mem_range.mp member)

/-- An answer to a one-shot service belongs to a request without an answer. -/
theorem prompt_unanswered {stored : Service} {data : stored.Data}
    (prompt : books.Prompt (.receive message)) (stores : incoming message = some ⟨stored, data⟩)
    (clears : stored.isClear) :
    ∃ request, books.answering message = some request ∧ books.Unanswered stored request := by
  have asked := incoming_requested stores
  rw [if_pos clears] at asked
  have some : requestType message.type ≠ none := by
    intro none
    rw [none] at asked
    cases asked
  obtain ⟨request, found⟩ := Option.ne_none_iff_exists.mp (prompt some)
  exact ⟨request, found.symm, unanswered_of_answering stores clears found⟩

end Answering

section Moves

variable {label : Event}

theorem Nested.pumped (nested : books.Nested) (pumping : books.pumping) :
    ∀ frame ∈ books.frames, ∀ message, frame ≠ .send message := by
  intro frame member message same
  subst same
  cases frames : books.frames with
  | nil => simp [frames] at member
  | cons top rest =>
      rw [frames] at member
      rcases List.mem_cons.mp member with first | below
      · exact pumping message rest (by rw [frames, first])
      · exact nested _ (by rw [frames]; exact below) message rfl

theorem Handles.nested (handled : books.Handles event response after) (safe : ¬ books.Fires event)
    (pumping : books.pumping) (nested : books.Nested) : after.Nested := by
  have whole := nested.pumped pumping
  cases handled with
  | crash fired => exact absurd fired safe
  | request | enterLobby | report | registered => exact whole
  | _ => exact nested

theorem Nested.below (nested : books.Nested) (frames : books.frames = frame :: rest) :
    ∀ frame ∈ rest.tail, ∀ message, frame ≠ .send message := by
  intro below member
  apply nested
  rw [frames]
  exact List.mem_of_mem_tail member

theorem Move.nested (moved : books.Move label after) (sound : books.Sound) (nested : books.Nested) :
    after.Nested := by
  cases moved with
  | dispatch pumping posted handled => exact handled.nested (sound.safe posted) pumping nested
  | send frames => exact nested.below frames
  | close frames => exact nested.below frames
  | pop frames => exact nested.below frames
  | _ => exact nested

theorem Handles.frame (handled : books.Handles event response after) (safe : ¬ books.Fires event) :
    after.sent = books.sent ∧ after.answered = books.answered ∧ after.calls = books.calls ∧
      after.network = books.network := by
  cases handled with
  | crash fired => exact absurd fired safe
  | _ => exact ⟨rfl, rfl, rfl, rfl⟩

theorem Move.bounded (moved : books.Move label after) (sound : books.Sound)
    (bounded : ∀ request ∈ books.answered, request < books.sent.length) :
    ∀ request ∈ after.answered, request < after.sent.length := by
  cases moved with
  | dispatch _ posted handled =>
      obtain ⟨sent, answered, _⟩ := handled.frame (sound.safe posted)
      rw [sent, answered]
      exact bounded
  | send =>
      intro request member
      rw [List.length_append]
      exact Nat.lt_add_right _ (bounded request member)
  | receive _ _ answers =>
      intro request member
      rcases List.mem_append.mp member with before | now
      · exact bounded request before
      · rw [Option.mem_toList] at now
        cases now
        exact (answering_spec answers).1
  | _ => exact bounded

/-- Each one-shot service goes through the phases of a request. -/
theorem Move.phase (moved : books.Move label after) (aligned : books.Aligned)
    (prompt : books.Prompt label) (clears : service.isClear) : after.Phase service := by
  have phase := aligned.phase service clears
  cases moved with
  | still => exact phase
  | click pumping => exact phase.pumped pumping pumping rfl rfl rfl rfl id
  | @dispatch event response rest _ pumping posted handled =>
      have begun : ({ books with posted := rest } : Books).Phase service :=
        phase.pumped pumping pumping rfl rfl rfl rfl id
      refine handled.phase (aligned.sound.safe posted) pumping ?_ begun
      intro issue issues same
      have free := prompt _ _ posted issue issues (by rw [same]; exact clears)
      exact ⟨free.closed, free.away, free.taken⟩
  | @send message rest frames =>
      have pumps : (books.dispatched message rest).pumping := aligned.nested.pumping frames rfl
      by_cases own : requested message.type = some service
      · have fresh : books.sent.length ∉ books.answered := fun member =>
          Nat.lt_irrefl _ (aligned.bounded _ member)
        exact phase.of_send frames own pumps fresh
      · exact (Leaves.of_send frames own pumps).phase phase
  | close frames =>
      have pumping : books.pumping := fun _ _ top => by cases frames.symm.trans top
      exact phase.pumped pumping (aligned.nested.pumping frames rfl) rfl rfl rfl rfl id
  | pop frames =>
      have pumping : books.pumping := fun _ _ top => by cases frames.symm.trans top
      exact phase.pumped pumping (aligned.nested.pumping frames rfl) rfl rfl rfl rfl drained_pop
  | @receive stored data message response idle stores answers =>
      by_cases same : service = stored
      · subst same
        obtain ⟨request, found, unanswered⟩ := prompt_unanswered prompt stores clears
        rw [answers, found]
        exact phase.of_store unanswered
      · refine (Leaves.of_store idle same ?_).phase phase
        intro request found
        exact foreign_of_answering stores same (found.symm.trans answers)
  | @call executed response executes =>
      by_cases same : service = executed
      · subst same
        exact phase.of_call executes clears
      · exact (Leaves.of_call executes same).phase phase
  | @clear cleared waits =>
      by_cases same : service = cleared
      · subst same
        exact phase.of_clear waits
      · exact (Leaves.of_clear waits same).phase phase

theorem Phase.taken (phase : books.Phase service) (unanswered : books.Unanswered service request)
    (rereads : service.rereads) : books.answers service = [] := by
  cases phase with
  | waiting _ _ _ _ _ taken => exact taken rereads
  | quiet closed => exact absurd unanswered (closed request)
  | sending _ _ free => exact absurd unanswered (free.closed request)
  | arrived _ _ _ closed => exact absurd unanswered (closed request)
  | clearing _ closed => exact absurd unanswered (closed request)

theorem isClear_of_rereads (rereads : service.rereads) : service.isClear := by
  cases service with
  | auth | createRoom | joinRoom => rfl
  | _ => cases rereads

theorem arrivals_idle (idle : books.network = .idle) : books.arrivals service = [] := by
  simp [arrivals, idle]

theorem arrivals_clear (clears : books.network = .clear cleared) : books.arrivals service = [] := by
  simp [arrivals, clears]

theorem arrivals_execute_own (executes : books.network = .execute service response) :
    books.arrivals service = [response] := by
  simp [arrivals, executes]

theorem arrivals_execute_other (executes : books.network = .execute executed response)
    (other : service ≠ executed) : books.arrivals service = [] := by
  simp [arrivals, executes, Ne.symm other]

theorem arrivals_call : (books.call executed response).arrivals service = [] := by
  cases executed <;> rfl

theorem queued_call_other (other : service ≠ executed)
    (slots : ∀ callback, books.slot executed = some callback →
      callback.event.completes = some executed) :
    (books.call executed response).queued service = books.queued service := by
  cases set : books.slot executed with
  | none => simp [queued, call, set]
  | some callback =>
      have elsewhere : callback.event.reads ≠ some service := fun reads =>
        other (completes_of_reads (slots callback set) reads).symm
      simp [queued, call, set, Posted.holder, elsewhere]

theorem queued_call_own (set : books.slot service = some callback)
    (reads : callback.event.reads = some service) :
    (books.call service response).queued service = books.queued service ++ [response] := by
  simp [queued, call, set, Posted.holder, reads]

/-- The callback that `Execute` finds, in terms of the request. -/
theorem Phase.installed (phase : books.Phase service)
    (executes : books.network = .execute service response) :
    ∃ request message event, response = some request ∧ books.sent[request]? = some message ∧
      requested message.type = some service ∧ completion message.type = some event ∧
      books.slot service = some ⟨event, some request⟩ := by
  cases phase with
  | @arrived request message network sent installed =>
      cases executes.symm.trans network
      obtain ⟨event, completes, slot⟩ := installed.slot
      exact ⟨request, message, event, rfl, sent, installed.requested, completes, slot⟩
  | quiet _ _ away => exact absurd executes (away.2 _)
  | sending _ _ free => exact absurd executes (free.away.2 _)
  | waiting _ _ _ _ away => exact absurd executes (away.2 _)
  | clearing waits => cases executes.symm.trans waits

theorem Held.arrived (held : books.Held service)
    (executes : books.network = .execute service response) :
    books.answers service = [response] ∧ books.framed service = [] ∧ books.queued service = [] := by
  have arrivals := arrivals_execute_own executes
  cases held with
  | none _ nobody => cases arrivals.symm.trans (holders_nil.mp nobody).2.2
  | kept _ nobody => cases arrivals.symm.trans (holders_nil.mp nobody).2.2
  | one found reader =>
      rw [holders, arrivals] at reader
      rcases List.append_eq_singleton_iff.mp reader with ⟨before, same⟩ | ⟨_, none⟩
      · cases same
        exact ⟨found, List.append_eq_nil_iff.mp before⟩
      · cases none

theorem framed_skip (frames : books.frames = frame :: rest) (shown : after.frames = rest)
    (skips : frame.holder service = none) : after.framed service = books.framed service := by
  rw [framed, framed, shown, frames, List.filterMap_cons_none skips]

/-- A handler that goes on after its message box finds its own answer. -/
theorem Held.boxed (held : books.Held service)
    (frames : books.frames = .messageBox text (some service) response :: rest) :
    books.answers service = [response] ∧ { books with frames := rest }.holders service = [] := by
  have framed : books.framed service = response :: { books with
      frames := rest }.framed service := by
    simp [Books.framed, frames, Frame.holder]
  cases held with
  | none _ nobody => cases framed.symm.trans (holders_nil.mp nobody).1
  | kept _ nobody => cases framed.symm.trans (holders_nil.mp nobody).1
  | one found reader =>
      rw [holders, framed, List.cons_append, List.cons_append, List.cons.injEq] at reader
      obtain ⟨same, nobody⟩ := reader
      subst same
      exact ⟨found, nobody⟩

theorem Move.held (moved : books.Move label after) (aligned : books.Aligned)
    (prompt : books.Prompt label) (rereads : service.rereads) : after.Held service := by
  have held := aligned.held service rereads
  have clear := isClear_of_rereads rereads
  cases moved with
  | still => exact held
  | click _ page =>
      have silent := reads_of_clicked (page.imp_right And.left)
      exact held.of_same rfl (holders_of_same rfl (queued_post_other (by simp [silent])) rfl)
  | dispatch _ posted handled => exact handled.held (aligned.sound.safe posted) (held.ready posted)
  | send frames => exact held.of_same rfl (holders_of_same (framed_skip frames rfl rfl) rfl rfl)
  | close frames => exact held.of_same rfl (holders_of_same (framed_skip frames rfl rfl) rfl rfl)
  | @pop _ popped _ _ frames =>
      by_cases same : service = popped
      · subst same
        obtain ⟨found, nobody⟩ := held.boxed frames
        exact .none (answers_pop_own.trans (congrArg List.tail found)) nobody
      · refine held.of_same (answers_pop_other same) (holders_of_same ?_ rfl rfl)
        exact framed_skip frames rfl (if_neg (Ne.symm same))
  | @receive stored data message response idle stores answers =>
      by_cases same : service = stored
      · subst same
        obtain ⟨request, found, unanswered⟩ := prompt_unanswered prompt stores clear
        have empty := (aligned.phase service clear).taken unanswered rereads
        obtain ⟨frames, posted, _⟩ := holders_nil.mp (held.none_of_empty empty)
        have executes : (books.store service response).network = .execute service response := rfl
        have framed : (books.store service response).framed service = [] := frames
        have queued : (books.store service response).queued service = [] := posted
        refine .one (answers_store_own.trans (congrArg (· ++ [response]) empty)) ?_
        rw [holders, framed, queued, arrivals_execute_own executes]
        rfl
      · have executes : (books.store stored response).network = .execute stored response := rfl
        refine held.of_same (answers_store_other same) (holders_of_same rfl rfl ?_)
        rw [arrivals_idle idle, arrivals_execute_other executes same]
  | @call executed response executes =>
      by_cases same : service = executed
      · subst same
        obtain ⟨found, frames, posted⟩ := held.arrived executes
        obtain ⟨_, message, event, _, _, asked, completes, slot⟩ :=
          (aligned.phase service clear).installed executes
        have reads := reads_of_completion asked completes (by rintro rfl; cases rereads)
        have framed : (books.call service response).framed service = [] := frames
        refine .one found ?_
        rw [holders, framed, queued_call_own slot reads, posted, arrivals_call]
        rfl
      · refine held.of_same rfl (holders_of_same rfl
          (queued_call_other same (aligned.sound.slots _)) ?_)
        rw [arrivals_call, arrivals_execute_other executes same]
  | clear clears =>
      refine held.of_same rfl (holders_of_same rfl rfl ?_)
      rw [arrivals_clear clears]
      rfl

theorem Move.lined (moved : books.Move label after) (aligned : books.Aligned) : after.Lined := by
  have lined := aligned.lined
  cases moved with
  | still => exact lined
  | click _ page =>
      have silent := reads_of_clicked (page.imp_right And.left)
      exact lined.of_same (fun _ _ => rfl) (queued_post_other (by simp [silent])) rfl rfl
  | dispatch _ posted handled => exact lined.dispatch posted handled (aligned.sound.safe posted)
  | send frames => exact lined.of_same (fun _ _ => framed_skip frames rfl rfl) rfl rfl rfl
  | close frames => exact lined.of_same (fun _ _ => framed_skip frames rfl rfl) rfl rfl rfl
  | @pop _ popped response _ frames =>
      have boxed : ∀ service : Service, service.rereads = false → service ≠ popped := by
        intro service once same
        subst same
        have none := lined.framed service once
        simp [framed, frames, Frame.holder] at none
      refine lined.of_same ?_ rfl rfl (answers_pop_other (boxed .refreshLobby rfl))
      intro service once
      exact framed_skip frames rfl (if_neg (Ne.symm (boxed service once)))
  | @receive stored _ _ response idle =>
      refine ⟨lined.framed, ?_⟩
      have ordered := lined.queued
      have executes : (books.store stored response).network = .execute stored response := rfl
      rw [arrivals_idle idle, List.append_nil] at ordered
      by_cases same : .refreshLobby = stored
      · subst same
        rw [arrivals_execute_own executes, answers_store_own, ← ordered]
        rfl
      · rw [arrivals_execute_other executes same, answers_store_other same, ← ordered]
        exact List.append_nil _
  | @call executed response executes =>
      by_cases same : .refreshLobby = executed
      · subst same
        obtain ⟨_, _, _, _, _, asked, completes, slot⟩ :=
          (aligned.phase .refreshLobby rfl).installed executes
        have reads := reads_of_completion asked completes (by simp)
        have ordered := lined.queued
        rw [arrivals_execute_own executes] at ordered
        refine ⟨lined.framed, ?_⟩
        rw [queued_call_own slot reads, arrivals_call, List.append_nil]
        exact ordered
      · refine lined.of_same (fun _ _ => rfl)
          (queued_call_other same (aligned.sound.slots _)) ?_ rfl
        rw [arrivals_call, arrivals_execute_other executes same]
  | clear clears =>
      refine lined.of_same (fun _ _ => rfl) rfl ?_ rfl
      rw [arrivals_clear clears]
      rfl

theorem Own.of_sent {call : Call} (own : books.Own call)
    (sent : ∀ {request : RequestNumber} {message : Message},
      books.sent[request]? = some message → after.sent[request]? = some message) :
    after.Own call := by
  obtain ⟨request, message, event, found, rest⟩ := own
  exact ⟨request, message, event, sent found, rest⟩

theorem Move.own (moved : books.Move label after) (aligned : books.Aligned) :
    ∀ call ∈ after.calls, call.service.isClear → after.Own call := by
  cases moved with
  | dispatch _ posted handled =>
      obtain ⟨sent, _, calls, _⟩ := handled.frame (aligned.sound.safe posted)
      rw [calls]
      intro call member clears
      refine (aligned.own call member clears).of_sent ?_
      rw [sent]
      exact id
  | send =>
      intro call member clears
      refine (aligned.own call member clears).of_sent ?_
      intro request message found
      exact (List.getElem?_append_left (List.getElem?_eq_some_iff.mp found).1).trans found
  | @call executed response executes =>
      intro call member clears
      rcases List.mem_append.mp member with before | now
      · exact aligned.own call before clears
      · cases List.mem_singleton.mp now
        obtain ⟨request, message, event, same, sent, _, completes, slot⟩ :=
          (aligned.phase executed clears).installed executes
        exact ⟨request, message, event, sent, same, completes, slot⟩
  | _ => exact aligned.own

theorem Move.finished (moved : books.Move label after) (aligned : books.Aligned)
    (prompt : books.Prompt label) : after.finished = after.answered.map some := by
  have finished := aligned.finished
  cases moved with
  | dispatch _ posted handled =>
      obtain ⟨_, answered, calls, network⟩ := handled.frame (aligned.sound.safe posted)
      rw [Books.finished, calls, network, answered]
      exact finished
  | @receive stored data message response idle stores answers =>
      have before : (books.calls.filter (·.service.isClear)).map Call.response =
          books.answered.map some := by
        simpa [Books.finished, idle] using finished
      have stored_finished : (books.store stored response).finished = books.answered.map some ++
          if stored.isClear then [response] else [] := by
        rw [← before]
        rfl
      rw [stored_finished, store, List.map_append]
      by_cases clears : stored.isClear
      · obtain ⟨request, found, _⟩ := prompt_unanswered prompt stores clears
        rw [if_pos clears, answers, found]
        rfl
      · rw [if_neg clears, answers, answering_of_subscribed stores clears]
        rfl
  | @call executed response executes =>
      rw [Books.finished, executes] at finished
      cases clears : executed.isClear with
      | true => simpa [Books.finished, Books.call, clears] using finished
      | false => simpa [Books.finished, Books.call, clears] using finished
  | clear clears =>
      simpa [Books.finished, Books.clear, clears] using finished
  | _ => exact finished

theorem Move.distinct (moved : books.Move label after) (aligned : books.Aligned) :
    after.answered.Nodup := by
  cases moved with
  | dispatch _ posted handled =>
      rw [(handled.frame (aligned.sound.safe posted)).2.1]
      exact aligned.distinct
  | @receive _ _ _ response _ _ answers =>
      cases response with
      | none =>
          rw [Books.store, Option.toList_none, List.append_nil]
          exact aligned.distinct
      | some request =>
          have fresh := (answering_spec answers).2.1
          exact aligned.distinct.append (List.nodup_singleton _) (List.disjoint_singleton.mpr fresh)
  | _ => exact aligned.distinct

theorem Move.read (moved : books.Move label after) (aligned : books.Aligned) :
    ∀ reading ∈ after.readings, reading.service.isClear → reading.found = some reading.response :=
      by
  have read := aligned.read
  cases moved with
  | dispatch _ posted handled =>
      rcases handled.readings (aligned.sound.safe posted) with same | ⟨service, reads, readings⟩
      · rw [same]
        exact read
      · rw [readings]
        intro reading member clears
        rcases List.mem_append.mp member with before | now
        · exact read reading before clears
        · cases List.mem_singleton.mp now
          have found := head_of_reads posted reads clears aligned.lined (aligned.held service)
          exact found
  | @pop _ popped response _ frames =>
      intro reading member clears
      rcases List.mem_append.mp member with before | now
      · exact read reading before clears
      · cases List.mem_singleton.mp now
        have rereads : popped.rereads := by
          by_contra once
          have none := aligned.lined.framed popped (Bool.eq_false_iff.mpr once)
          simp [framed, frames, Frame.holder] at none
        have found := ((aligned.held popped rereads).boxed frames).1
        exact congrArg List.head? found
  | _ => exact read

theorem Aligned.move (aligned : books.Aligned) (moved : books.Move label after)
    (prompt : books.Prompt label) : after.Aligned where
  sound := aligned.sound.move moved
  nested := moved.nested aligned.sound aligned.nested
  bounded := moved.bounded aligned.sound aligned.bounded
  phase _ clears := moved.phase aligned prompt clears
  held _ rereads := moved.held aligned prompt rereads
  lined := moved.lined aligned
  own := moved.own aligned
  finished := moved.finished aligned prompt
  distinct := moved.distinct aligned
  read := moved.read aligned

end Moves

end Books

/-- The service that `Execute` of the thread of the network is at. -/
def Network.serves : Network → Option Service
  | .idle => none
  | .execute service _ => some service
  | .clear service => some service

/-- No request of the service is unanswered, the last answer has been executed, and where the
handlers leave an answer in the queue, it has been taken. -/
def Ready (self : MainDialog) (service : Service) : Prop :=
  (∀ request < self.sent.length,
    (self.sent[request]?.map Message.type).bind requested = some service →
    request ∈ self.answered) ∧
  self.network.serves ≠ some service ∧ (service.rereads = true → self.entries service = 0)

instance (self : MainDialog) (service : Service) : Decidable (self.Ready service) :=
  inferInstanceAs (Decidable (_ ∧ _ ∧ (_ → _)))

/-- A handler makes a request of a one-shot service only when the service is ready for it. -/
def OneAtATime : Event → MainDialog → Prop
  | .dispatch, self => ∀ posted ∈ self.posted.head?, ∀ issue ∈ posted.event.issues,
      issue.service.isClear = true → self.Ready issue.service
  | _, _ => True

instance : ∀ (event : Event) (self : MainDialog), Decidable (OneAtATime event self)
  | .dispatch, self =>
      inferInstanceAs (Decidable (∀ posted ∈ self.posted.head?, ∀ issue ∈ posted.event.issues,
          issue.service.isClear = true → self.Ready issue.service))
  | .click _, _ => .isTrue trivial
  | .resume, _ => .isTrue trivial
  | .receive _, _ => .isTrue trivial
  | .network, _ => .isTrue trivial

/-- The messages that answer requests are answers to requests that were sent. -/
def Solicited : Event → MainDialog → Prop
  | .receive message, self => requestType message.type ≠ none → self.answering message ≠ none
  | _, _ => True

instance : ∀ (event : Event) (self : MainDialog), Decidable (Solicited event self)
  | .receive message, self =>
      inferInstanceAs (Decidable (requestType message.type ≠ none → self.answering message ≠ none))
  | .click _, _ => .isTrue trivial
  | .dispatch, _ => .isTrue trivial
  | .resume, _ => .isTrue trivial
  | .network, _ => .isTrue trivial

theorem free_of_ready {self : MainDialog} (ready : self.Ready service) :
    self.books.Free service where
  closed request unanswered := by
    obtain ⟨asked, fresh⟩ := unanswered
    have sent : request < self.sent.length := by
      by_contra beyond
      have none : self.books.sent[request]? = none := List.getElem?_eq_none (Nat.not_lt.mp beyond)
      rw [none] at asked
      cases asked
    exact fresh (ready.1 request sent asked)
  away := by
    have elsewhere := ready.2.1
    refine ⟨?_, ?_⟩
    · intro clears
      have network : self.network = .clear service := clears
      exact elsewhere (by rw [network]; rfl)
    · intro response executes
      have network : self.network = .execute service response := executes
      exact elsewhere (by rw [network]; rfl)
  taken rereads := List.map_eq_nil_iff.mpr (List.length_eq_zero_iff.mp (ready.2.2 rereads))

theorem prompt_of_guard {event : Event} {self : MainDialog} (ready : OneAtATime event self)
    (solicited : Solicited event self) : self.books.Prompt event := by
  cases event with
  | dispatch =>
      intro posted rest queued issue issues clears
      have head : posted ∈ self.posted.head? := by
        have same : self.posted = posted :: rest := queued
        simp [same]
      exact free_of_ready (ready posted head issue issues clears)
  | receive message => exact solicited
  | click | resume | network => trivial

/-- The answers to one-shot services that have run their callbacks. -/
def executedAnswers (self : MainDialog) : List (Option RequestNumber) :=
  (self.calls.filter (·.service.isClear)).map Call.response

/-- Every answer runs the callback of its own request, once, and is what the handlers read that
it leads to. -/
structure Matched (state : MainDialog) : Prop where
  own : ∀ call ∈ state.calls, call.service.isClear = true → ∃ request message event,
    state.sent[request]? = some message ∧ call.response = some request ∧
      completion message.type = some event ∧ call.callback = some ⟨event, some request⟩
  once : state.executedAnswers.Nodup
  each : ∀ request ∈ state.answered, some request ∈ state.executedAnswers ∨
    ∃ service, state.network = .execute service (some request)
  read : ∀ reading ∈ state.readings, reading.service.isClear = true →
    reading.found = some reading.response

theorem matched_of_aligned {self : MainDialog} (aligned : self.books.Aligned) : self.Matched where
  own := aligned.own
  once := by
    have all : self.books.finished.Nodup := by
      rw [aligned.finished]
      exact aligned.distinct.map fun _ _ same => Option.some.inj same
    exact all.of_append_left
  each := by
    intro request member
    have finished : some request ∈ self.books.finished := by
      rw [aligned.finished]
      exact List.mem_map_of_mem member
    rcases List.mem_append.mp finished with executed | next
    · exact .inl executed
    · right
      split at next
      next service response executes =>
          split at next
          · cases List.mem_singleton.mp next
            exact ⟨service, executes⟩
          · cases next
      next => cases next
  read := aligned.read

theorem not_matched_of_foreign {self : MainDialog} (member : call ∈ self.calls)
    (clears : call.service.isClear = true)
    (foreign : call.callback.bind Callback.request ≠ call.response) : ¬ self.Matched := by
  intro matched
  obtain ⟨request, _, _, _, response, _, callback⟩ := matched.own call member clears
  rw [callback, response] at foreign
  exact foreign rfl

theorem start_aligned : start.books.Aligned where
  sound := start_sound
  nested := nofun
  bounded := nofun
  phase service _ := by
    refine .quiet ?_ nofun ⟨nofun, nofun⟩
    rintro request ⟨asked, _⟩
    cases asked
  held service rereads := by
    cases service with
    | auth | createRoom | joinRoom => exact .none rfl rfl
    | _ => cases rereads
  lined := ⟨fun _ _ => rfl, rfl⟩
  own := nofun
  finished := rfl
  distinct := List.nodup_nil
  read := nofun

theorem answers_reach_requests {events : List Event} {after : MainDialog}
    (guarded : system.Guarded (fun event self => OneAtATime event self ∧
      Solicited event self) events start) (ran : system.run events start = some after) :
    after.Matched := by
  have keeps : ∀ {event : Event} {before next : MainDialog}, OneAtATime event before ∧
      Solicited event before →
      system.step event before = some next → before.books.Aligned → next.books.Aligned :=
    fun guard stepped aligned => aligned.move (step_move stepped) (prompt_of_guard guard.1 guard.2)
  exact matched_of_aligned (System.run_preserves_guarded keeps guarded ran start_aligned)

/-- The user refreshes the lobby after the login. -/
theorem answers_reach_requests_lobby :
    let events : List Event := [.click (.login "kim" "1"), .dispatch, .resume,
      .receive (.sLogin true "kim" "1"), .network, .network, .dispatch, .dispatch, .resume,
      .receive (.sRefreshLobby true [] []), .network, .network, .dispatch]
    ∃ after, system.run events start = some after ∧ after.Matched ∧
      after.executedAnswers = [some 0, some 1] := by
  intro events
  exact ⟨_, rfl, @answers_reach_requests events _ (by decide +kernel) rfl, rfl⟩

/-- The answer to a login runs the callback of the register request that was made after it,
and its success is reported as one of the registration. -/
theorem login_answer_runs_register :
    let events : List Event := [.click (.login "kim" "1"), .dispatch, .resume,
      .click (.register "lee" "2"), .dispatch, .resume, .receive (.sLogin true "kim" "1"),
      .network, .network, .dispatch]
    ∃ after, system.run events start = some after ∧
      after.calls = [⟨.auth, some 0, some ⟨.registerCompletedRegister, some 1⟩⟩] ∧
      after.frames = [.messageBox "회원가입이 완료되었습니다." none (some 0)] ∧ ¬ after.Matched := by
  intro events
  refine ⟨_, rfl, rfl, rfl, ?_⟩
  exact not_matched_of_foreign (List.mem_singleton_self _) rfl (by decide)

end ChattingProgram.Client.MainDialog

import Mathlib.Data.List.Basic
import ServiceTree.Http.Transport

/-!
# Recordings that transports share

A transport that records may be cloned, and all its clones hold one recording. Whatever is done through them, in
any order and among uses of other transports, the recording is a queue that gives every response once and in order,
and a log of all requests, those included for which no response waited.
-/

namespace ServiceTree

/-! ## What happens to one recording -/

/-- What happens to a recording. -/
inductive RecordingEvent where
  /-- A response was queued. -/
  | queued (response : Response)
  /-- A request was sent and answered. -/
  | answered (request : Request) (response : Response)
  /-- A request was sent and failed. -/
  | failed (request : Request) (error : TransportError)

namespace RecordingEvent

/-- The response that was queued, if one was. -/
def queued? : RecordingEvent → Option Response
  | .queued response => some response
  | .answered _ _ | .failed _ _ => none

/-- The response that a request was answered with, if one was. -/
def given? : RecordingEvent → Option Response
  | .answered _ response => some response
  | .queued _ | .failed _ _ => none

/-- The request that was sent, if one was. -/
def request? : RecordingEvent → Option Request
  | .answered request _ | .failed request _ => some request
  | .queued _ => none

/-- What happened where a request was sent that had a result. -/
def ofSent (request : Request) : Except TransportError Response → RecordingEvent
  | .ok response => .answered request response
  | .error error => .failed request error

end RecordingEvent

namespace Recording

/-- What can happen to a recording, and what it is then. -/
inductive Happens (recording : Recording) : RecordingEvent → Recording → Prop
  | respond (response : Response) : Happens recording (.queued response) (recording.respond response)
  | send (request : Request) :
    Happens recording (.ofSent request (recording.send request).1) (recording.send request).2

/-- The events of a recording since it was made, and what it is then. -/
inductive History : List RecordingEvent → Recording → Prop
  | start : History [] empty
  | step {events : List RecordingEvent} {event : RecordingEvent} {recording next : Recording}
    (h : History events recording) (hnext : recording.Happens event next) : History (events ++ [event]) next

/-- The responses that were queued, in order. -/
def queued (events : List RecordingEvent) : List Response := events.filterMap (·.queued?)

/-- The responses that requests were answered with, in order. -/
def given (events : List RecordingEvent) : List Response := events.filterMap (·.given?)

/-- The requests that were sent, in order. -/
def requested (events : List RecordingEvent) : List Request := events.filterMap (·.request?)

section

variable {events before after : List RecordingEvent} {event : RecordingEvent} {recording next : Recording}
  {request : Request}

/-- A request is answered with the response that has waited longest, or fails if none waits; it is kept either
way. -/
theorem send_cases (recording : Recording) (request : Request) :
    (recording.queue = [] ∧
      recording.send request = (.error (exhausted request), ⟨[], recording.log ++ [request]⟩)) ∨
    ∃ response rest, recording.queue = response :: rest ∧
      recording.send request = (.ok response, ⟨rest, recording.log ++ [request]⟩) := by
  obtain ⟨queue, log⟩ := recording
  cases queue with
  | nil => exact .inl ⟨rfl, rfl⟩
  | cons response rest => exact .inr ⟨response, rest, rfl, rfl⟩

/-- A response that is given is the one that has waited longest, and a response that is queued waits behind all
others. -/
theorem Happens.queue_eq (h : recording.Happens event next) :
    event.given?.toList ++ next.queue = recording.queue ++ event.queued?.toList := by
  cases h with
  | respond response => rfl
  | send request =>
    rcases recording.send_cases request with ⟨hqueue, hsend⟩ | ⟨response, rest, hqueue, hsend⟩
    · rw [hsend, hqueue]
      rfl
    · rw [hsend, hqueue]
      exact (List.append_nil _).symm

/-- A request that is sent is kept. -/
theorem Happens.log_eq (h : recording.Happens event next) :
    next.log = recording.log ++ event.request?.toList := by
  cases h with
  | respond response => exact (List.append_nil _).symm
  | send request =>
    rcases recording.send_cases request with ⟨_, hsend⟩ | ⟨_, _, _, hsend⟩
    · rw [hsend]
      rfl
    · rw [hsend]
      rfl

/-- A request fails exactly if no response waits, and then for that reason. -/
theorem Happens.failed_iff (h : recording.Happens event next) (hrequest : event.request? = some request) :
    ((∃ error, event = .failed request error) ↔ recording.queue = []) ∧
      ∀ error, event = .failed request error → error = exhausted request := by
  cases h with
  | respond response => cases hrequest
  | send sent =>
    rcases recording.send_cases sent with ⟨hqueue, hsend⟩ | ⟨response, rest, hqueue, hsend⟩
    · rw [hsend] at hrequest ⊢
      cases hrequest
      refine ⟨iff_of_true ⟨_, rfl⟩ hqueue, ?_⟩
      rintro _ ⟨⟩
      rfl
    · rw [hsend] at hrequest ⊢
      cases hrequest
      refine ⟨iff_of_false ?_ (by simp [hqueue]), ?_⟩
      · rintro ⟨_, ⟨⟩⟩
      · rintro _ ⟨⟩

/-- What is picked from events with one more event behind them. -/
theorem filterMap_concat {A : Type} (pick : RecordingEvent → Option A) (events : List RecordingEvent)
    (event : RecordingEvent) :
    (events ++ [event]).filterMap pick = events.filterMap pick ++ (pick event).toList := by
  rw [List.filterMap_append]
  cases hpick : pick event <;> simp [hpick]

/-- The responses that were given, with those that wait behind them, are the responses that were queued. -/
theorem History.given_append_queue (h : History events recording) :
    given events ++ recording.queue = queued events := by
  induction h with
  | start => rfl
  | @step events event recording next _ hnext ih =>
    calc given (events ++ [event]) ++ next.queue
        = given events ++ (event.given?.toList ++ next.queue) := by
          rw [given, filterMap_concat, List.append_assoc, given]
      _ = given events ++ recording.queue ++ event.queued?.toList := by
          rw [hnext.queue_eq, List.append_assoc]
      _ = queued (events ++ [event]) := by
          rw [ih, queued, queued, filterMap_concat]

/-- The log holds the requests that were sent. -/
theorem History.log_eq (h : History events recording) : recording.log = requested events := by
  induction h with
  | start => rfl
  | step _ hnext ih => rw [hnext.log_eq, ih, requested, requested, filterMap_concat]

/-- Every event of a history happened to what the events in front of it left. -/
theorem History.of_append (h : History events recording) (hevents : events = before ++ event :: after) :
    ∃ earlier next, History before earlier ∧ earlier.Happens event next := by
  induction h generalizing after with
  | start => simp at hevents
  | @step events last recording next h hnext ih =>
    rcases List.eq_nil_or_concat after with rfl | ⟨after, final, rfl⟩
    · obtain ⟨rfl, hlast⟩ := List.append_inj' hevents rfl
      cases hlast
      exact ⟨recording, next, h, hnext⟩
    · rw [List.concat_eq_append, ← List.cons_append, ← List.append_assoc] at hevents
      exact ih (List.append_inj' hevents rfl).1

/-- As many responses were given as were queued exactly if none waits. -/
theorem History.length_given_eq_iff (h : History events recording) :
    (given events).length = (queued events).length ↔ recording.queue = [] := by
  rw [← h.given_append_queue, List.length_append]
  simp

end

end Recording

/-! ## Transports and their clones -/

/-- A use of one of several transports, which are known by the order in which they were made. -/
inductive TransportUse where
  /-- Make a transport with a recording of its own. -/
  | make
  /-- Make another transport that holds the recording of one. -/
  | clone (transport : Nat)
  | respond (transport : Nat) (response : Response)
  | send (transport : Nat) (request : Request)

namespace TransportUse

/-- Whether something is done with a recording. -/
def isCall : TransportUse → Bool
  | .make | .clone _ => false
  | .respond _ _ | .send _ _ => true

/-- Whether uses are all of transports that were made before, of which there is a number already. -/
def AreProper (made : Nat) : List TransportUse → Prop
  | [] => True
  | .make :: rest => AreProper (made + 1) rest
  | .clone transport :: rest => transport < made ∧ AreProper (made + 1) rest
  | .respond transport _ :: rest => transport < made ∧ AreProper made rest
  | .send transport _ :: rest => transport < made ∧ AreProper made rest

/-- The use of a transport that an event comes from. -/
def ofEvent (transport : Nat) : RecordingEvent → TransportUse
  | .queued response => .respond transport response
  | .answered request _ | .failed request _ => .send transport request

/-- However a request ends, it was sent. -/
theorem ofEvent_ofSent (transport : Nat) (request : Request) (result : Except TransportError Response) :
    ofEvent transport (.ofSent request result) = .send transport request := by
  cases result <;> rfl

end TransportUse

/-- Transports that record: the recordings, the place of the one that each transport holds, and what happened
through which transport, in order. -/
structure Recorders where
  recordings : List Recording
  held : List Nat
  events : List (Nat × RecordingEvent)

namespace Recorders

/-- No transports. -/
def empty : Recorders := ⟨[], [], []⟩

/-- Let something happen to the recording that a transport holds, if there is one. -/
def change (recorders : Recorders) (transport : Nat) (act : Recording → RecordingEvent × Recording) : Recorders :=
  match recorders.held[transport]? with
  | none => recorders
  | some place =>
    match recorders.recordings[place]? with
    | none => recorders
    | some recording =>
      { recorders with
        recordings := recorders.recordings.set place (act recording).2
        events := recorders.events ++ [(transport, (act recording).1)] }

/-- Use a transport. -/
def perform (recorders : Recorders) : TransportUse → Recorders
  | .make =>
    { recorders with
      recordings := recorders.recordings ++ [Recording.empty]
      held := recorders.held ++ [recorders.recordings.length] }
  | .clone transport => { recorders with held := recorders.held ++ recorders.held[transport]?.toList }
  | .respond transport response =>
    recorders.change transport fun recording => (.queued response, recording.respond response)
  | .send transport request =>
    recorders.change transport fun recording =>
      (.ofSent request (recording.send request).1, (recording.send request).2)

/-- The transports after some uses, from the first one on. -/
def run (uses : List TransportUse) : Recorders := uses.foldl perform empty

/-- The recording that a transport holds. -/
def recording? (recorders : Recorders) (transport : Nat) : Option Recording :=
  recorders.held[transport]?.bind fun place => recorders.recordings[place]?

/-- What happened through the transports that hold the recording at a place. -/
def eventsAt (recorders : Recorders) (place : Nat) : List RecordingEvent :=
  recorders.events.filterMap fun event => if recorders.held[event.1]? = some place then some event.2 else none

/-- What happened through a transport and all its clones. -/
def eventsOf (recorders : Recorders) (transport : Nat) : List RecordingEvent :=
  recorders.events.filterMap fun event =>
    if recorders.held[event.1]? = recorders.held[transport]? then some event.2 else none

/-- What happened to every recording is its history. Every transport has a recording, and every event a transport. -/
structure Recorded (recorders : Recorders) : Prop where
  history : ∀ place recording, recorders.recordings[place]? = some recording →
    Recording.History (recorders.eventsAt place) recording
  used : ∀ event ∈ recorders.events, event.1 < recorders.held.length
  held : ∀ place ∈ recorders.held, place < recorders.recordings.length

variable {recorders : Recorders}

/-- Every transport holds a recording. -/
theorem Recorded.exists_recording (h : recorders.Recorded) {transport : Nat}
    (hmade : transport < recorders.held.length) :
    ∃ place recording, recorders.held[transport]? = some place ∧ recorders.recordings[place]? = some recording := by
  have hplace := h.held _ (List.getElem_mem hmade)
  exact ⟨_, _, List.getElem?_eq_getElem hmade, List.getElem?_eq_getElem hplace⟩

/-- There are no events at a place without a recording. -/
theorem Recorded.eventsAt_eq_nil (h : recorders.Recorded) {place : Nat}
    (hplace : recorders.recordings.length ≤ place) : recorders.eventsAt place = [] := by
  refine List.filterMap_eq_nil_iff.mpr fun event _ => if_neg fun hheld => ?_
  exact Nat.not_lt_of_le hplace (h.held place (List.mem_of_getElem? hheld))

/-- More transports change nothing about what happened through others. -/
theorem Recorded.eventsAt_append (h : recorders.Recorded) (recordings : List Recording) (more : List Nat)
    (place : Nat) : eventsAt ⟨recordings, recorders.held ++ more, recorders.events⟩ place =
      recorders.eventsAt place := by
  refine List.filterMap_congr fun event hevent => ?_
  rw [List.getElem?_append_left (h.used event hevent)]

/-- What happens to the recording that a transport holds is one more event in its history, and in no other. -/
theorem Recorded.set (h : recorders.Recorded) {transport place : Nat} {recording next : Recording}
    {event : RecordingEvent} (hheld : recorders.held[transport]? = some place)
    (hplace : recorders.recordings[place]? = some recording) (hnext : recording.Happens event next) :
    Recorded { recorders with
      recordings := recorders.recordings.set place next
      events := recorders.events ++ [(transport, event)] } := by
  have hevents (other : Nat) : eventsAt { recorders with
      recordings := recorders.recordings.set place next
      events := recorders.events ++ [(transport, event)] } other =
        recorders.eventsAt other ++ if place = other then [event] else [] := by
    rw [eventsAt, List.filterMap_append]
    congr 1
    split <;> simp_all
  refine ⟨fun other found hfound => ?_, fun happened hmem => ?_, by simpa using h.held⟩
  · rw [List.getElem?_set] at hfound
    rw [hevents]
    split at hfound
    case isTrue hsame =>
      subst hsame
      split at hfound
      · cases hfound
        rw [if_pos rfl]
        exact .step (h.history place recording hplace) hnext
      · cases hfound
    case isFalse hother =>
      rw [if_neg hother, List.append_nil]
      exact h.history other found hfound
  · rcases List.mem_append.mp hmem with hmem | hmem
    · exact h.used happened hmem
    · rw [List.mem_singleton.mp hmem]
      exact (List.getElem?_eq_some_iff.mp hheld).1

/-- What is done with a transport happens to its recording. -/
theorem Recorded.change (h : recorders.Recorded) {act : Recording → RecordingEvent × Recording}
    (hact : ∀ recording : Recording, recording.Happens (act recording).1 (act recording).2) (transport : Nat) :
    (recorders.change transport act).Recorded := by
  unfold Recorders.change
  split
  · exact h
  case h_2 hheld =>
    split
    · exact h
    case h_2 hplace => exact h.set hheld hplace (hact _)

/-- A recording that is made has no events yet. -/
theorem Recorded.make (h : recorders.Recorded) : (recorders.perform .make).Recorded := by
  have hlength : (recorders.perform .make).recordings.length = recorders.recordings.length + 1 :=
    List.length_append
  refine ⟨fun place recording hplace => ?_, fun event hevent => ?_, fun place hplace => ?_⟩
  · change (recorders.recordings ++ [Recording.empty])[place]? = some recording at hplace
    rw [Recorders.perform, h.eventsAt_append]
    by_cases hbefore : place < recorders.recordings.length
    · rw [List.getElem?_append_left hbefore] at hplace
      exact h.history place recording hplace
    · rw [List.getElem?_append_right (Nat.le_of_not_lt hbefore), List.getElem?_singleton] at hplace
      split at hplace
      · cases hplace
        rw [h.eventsAt_eq_nil (Nat.le_of_not_lt hbefore)]
        exact .start
      · cases hplace
  · exact Nat.lt_of_lt_of_le (h.used event hevent) (by simp [Recorders.perform])
  · rw [hlength]
    rcases List.mem_append.mp hplace with hplace | hplace
    · exact Nat.lt_succ_of_lt (h.held place hplace)
    · rw [List.mem_singleton.mp hplace]
      exact Nat.lt_succ_self _

/-- A clone holds a recording that is held already. -/
theorem Recorded.clone (h : recorders.Recorded) (transport : Nat) :
    (recorders.perform (.clone transport)).Recorded := by
  refine ⟨fun place recording hplace => ?_, fun event hevent => ?_, fun place hplace => ?_⟩
  · rw [Recorders.perform, h.eventsAt_append]
    exact h.history place recording hplace
  · exact Nat.lt_of_lt_of_le (h.used event hevent) (by simp [Recorders.perform])
  · rcases List.mem_append.mp hplace with hplace | hplace
    · exact h.held place hplace
    · exact h.held place (List.mem_of_getElem? (Option.mem_toList.mp hplace))

/-- Every use keeps the histories. -/
theorem Recorded.perform (h : recorders.Recorded) (use : TransportUse) : (recorders.perform use).Recorded := by
  cases use with
  | make => exact h.make
  | clone transport => exact h.clone transport
  | respond transport response => exact h.change (fun _ => .respond response) transport
  | send transport request => exact h.change (fun _ => .send request) transport

/-- Whatever was done, what happened to every recording is its history. -/
theorem run_recorded (uses : List TransportUse) : (run uses).Recorded :=
  List.foldlRecOn uses _ ⟨by simp [empty], by simp [empty], by simp [empty]⟩
    fun _ h use _ => h.perform use

/-- What is done with a transport that was made happens through it. -/
theorem Recorded.events_change (h : recorders.Recorded) {transport : Nat}
    (hmade : transport < recorders.held.length) (act : Recording → RecordingEvent × Recording)
    (use : TransportUse) (huse : ∀ recording, TransportUse.ofEvent transport (act recording).1 = use) :
    (recorders.change transport act).events.map (fun event => TransportUse.ofEvent event.1 event.2) =
        recorders.events.map (fun event => TransportUse.ofEvent event.1 event.2) ++ [use] ∧
      (recorders.change transport act).held = recorders.held := by
  obtain ⟨place, recording, hheld, hplace⟩ := h.exists_recording hmade
  rw [Recorders.change, hheld]
  dsimp only
  rw [hplace]
  simp [huse]

/-- All that is done with transports that were made before happens, in order. -/
theorem Recorded.events_foldl (h : recorders.Recorded) {uses : List TransportUse}
    (hproper : TransportUse.AreProper recorders.held.length uses) :
    (uses.foldl Recorders.perform recorders).events.map (fun event => TransportUse.ofEvent event.1 event.2) =
      recorders.events.map (fun event => TransportUse.ofEvent event.1 event.2) ++
        uses.filter (·.isCall) := by
  induction uses generalizing recorders with
  | nil => simp
  | cons use rest ih =>
    have hnext := h.perform use
    rw [List.foldl_cons]
    cases use with
    | make =>
      rw [ih hnext (by simpa [Recorders.perform, TransportUse.AreProper] using hproper)]
      rfl
    | clone transport =>
      obtain ⟨hmade, hproper⟩ := hproper
      rw [ih hnext (by simpa [Recorders.perform, List.getElem?_eq_getElem hmade] using hproper)]
      rfl
    | respond transport response =>
      obtain ⟨hmade, hproper⟩ := hproper
      obtain ⟨hevents, hheld⟩ := h.events_change hmade
        (fun recording => (.queued response, recording.respond response)) (.respond transport response) fun _ => rfl
      rw [ih hnext (by rw [Recorders.perform, hheld]; exact hproper), Recorders.perform, hevents,
        List.append_assoc]
      rfl
    | send transport request =>
      obtain ⟨hmade, hproper⟩ := hproper
      obtain ⟨hevents, hheld⟩ := h.events_change hmade
        (fun recording => (.ofSent request (recording.send request).1, (recording.send request).2))
        (.send transport request) fun _ => TransportUse.ofEvent_ofSent transport request _
      rw [ih hnext (by rw [Recorders.perform, hheld]; exact hproper), Recorders.perform, hevents,
        List.append_assoc]
      rfl

/-- What happens through a transport and its clones keeps one account: the responses given and waiting are those
that were queued, the log holds the requests, and a request fails exactly if no response waits for it. -/
theorem recordings_accounted {uses : List TransportUse} (hproper : TransportUse.AreProper 0 uses) :
    (run uses).events.map (fun event => TransportUse.ofEvent event.1 event.2) = uses.filter (·.isCall) ∧
    ∀ transport < (run uses).held.length, ∃ recording, (run uses).recording? transport = some recording ∧
      Recording.given ((run uses).eventsOf transport) ++ recording.queue =
        Recording.queued ((run uses).eventsOf transport) ∧
      recording.log = Recording.requested ((run uses).eventsOf transport) ∧
      ∀ before event after request, (run uses).eventsOf transport = before ++ event :: after →
        event.request? = some request →
          ((∃ error, event = .failed request error) ↔
            (Recording.given before).length = (Recording.queued before).length) ∧
          ∀ error, event = .failed request error →
            error = .connection ("No response queued for " ++ request.verb.word ++ " " ++ request.path) := by
  have hrecorded := run_recorded uses
  refine ⟨(run_recorded []).events_foldl hproper, fun transport hmade => ?_⟩
  obtain ⟨place, recording, hheld, hplace⟩ := hrecorded.exists_recording hmade
  have hevents : (run uses).eventsOf transport = (run uses).eventsAt place := by
    rw [eventsOf, hheld]
    rfl
  have hhistory := hrecorded.history place recording hplace
  rw [hevents]
  refine ⟨recording, by rw [recording?, hheld, Option.bind_some, hplace], hhistory.given_append_queue,
    hhistory.log_eq, fun before event after request hsplit hrequest => ?_⟩
  obtain ⟨earlier, next, hearlier, hnext⟩ := hhistory.of_append hsplit
  rw [hearlier.length_given_eq_iff]
  exact hnext.failed_iff hrequest

/-- A transport, a clone of it that is given a response, another transport that finds none, and two requests through
the transport and its clone, the second of which finds none either. -/
def clonedUses : List TransportUse :=
  [.make, .clone 0, .respond 1 ⟨201, [], .empty⟩, .make, .send 2 (.new .get "books"),
    .send 0 (.new .post "books"), .send 1 (.new .get "books/1")]

/-- The response given through the clone answers the request sent through the transport, and the log that both hold
has both requests. -/
theorem clonedUses_accounted : TransportUse.AreProper 0 clonedUses ∧
    (run clonedUses).recording? 0 = some ⟨[], [.new .post "books", .new .get "books/1"]⟩ ∧
    Recording.given ((run clonedUses).eventsOf 0) = [⟨201, [], .empty⟩] ∧
    Recording.requested ((run clonedUses).eventsOf 1) = [.new .post "books", .new .get "books/1"] := by
  have hproper : TransportUse.AreProper 0 clonedUses := by simp [clonedUses, TransportUse.AreProper]
  have hzero : (run clonedUses).recording? 0 = some ⟨[], [.new .post "books", .new .get "books/1"]⟩ := rfl
  have hone : (run clonedUses).recording? 1 = some ⟨[], [.new .post "books", .new .get "books/1"]⟩ := rfl
  obtain ⟨recording, hheld, hgiven, _⟩ := (recordings_accounted hproper).2 0 (by decide)
  obtain ⟨shared, hshared, _, hlog, _⟩ := (recordings_accounted hproper).2 1 (by decide)
  rw [hzero] at hheld
  rw [hone] at hshared
  cases hheld
  cases hshared
  exact ⟨hproper, hzero, (List.append_nil _).symm.trans hgiven, hlog.symm⟩

end Recorders

end ServiceTree

import MiGate.Web.TrafficStream

namespace MiGate.Web

open Go Db Relational Transition

/-! What the page shows after an event, with and without polling. -/

variable {session after : TrafficSession} {held : Option SnapshotData}

/-- The page shows what the last event was computed from. -/
def LatestShown (session : TrafficSession) : Prop :=
  ∀ snapshot, session.latest = some snapshot → ∃ data, session.shown = some data ∧ data.Shows snapshot

/-- An action of the stream, not of the polling beside it. -/
def TrafficAction.streams : TrafficAction → Bool
  | .poll _ _ => false
  | _ => true

theorem receive_latest {sent : SentEvent} {rest : List SentEvent} (sound : SessionSound session)
    (shown : LatestShown session) (queue : session.flying = sent :: rest) :
    LatestShown (session.receive sent rest) := by
  obtain ⟨_, _, follows, fresh, _⟩ := sound.first queue
  intro snapshot seen
  rw [← Option.some.inj seen]
  obtain ⟨event, current⟩ := sent
  refine ⟨event.apply session.shown, rfl, ?_⟩
  dsimp only at follows fresh
  cases event with
  | snapshot served =>
      have same : served = current := follows
      rw [same]
      exact encode_shows fresh
  | patch changes =>
      obtain ⟨base, prior, based, alike, before, made⟩ := follows
      obtain ⟨data, present, shows⟩ := shown base based
      have priorShown := shows.alike alike (sound.latest base based) before
      rw [present, TrafficStreamEvent.apply, made]
      exact merge_shows before fresh priorShown

theorem step_latest {action : TrafficAction} (sound : SessionSound session) (shown : LatestShown session)
    (streams : action.streams = true) (stepped : session.step action = some after) : LatestShown after := by
  cases action with
  | connect view now =>
      rw [← Option.some.inj stepped]
      exact shown
  | tick view now =>
      obtain ⟨handler, _, done⟩ := Option.map_eq_some_iff.mp stepped
      rw [← done]
      exact shown
  | deliver =>
      obtain ⟨sent, rest, queue, rfl⟩ := deliver_eq_some stepped
      exact receive_latest sound shown queue
  | poll view now => cases streams

/-- The stream alone. -/
abbrev Streaming (held : Option SnapshotData) : TrafficSession → Prop :=
  Reach (Guarded (fun action _ => TrafficAction.streams action = true) (Steps TrafficSession.step)) (.start held)

theorem latest_shown (reached : Streaming held session) : LatestShown session :=
  reached.invariant_with (fun _ earlier => session_sound earlier.unguarded) nofun fun _ _ _ sound shown stepped =>
    step_latest sound shown stepped.1 stepped.2

/-- What has arrived shows the server's last snapshot once nothing is on its way. -/
theorem settled_shown {handler : TrafficStreamHandler} (sound : SessionSound session) (shown : LatestShown session)
    (opened : session.handler = some handler) (arrived : session.flying = []) :
    ∃ data, session.shown = some data ∧ data.Shows handler.previous := by
  have linked := sound.linked handler opened
  rw [arrived] at linked
  obtain ⟨base, based, alike⟩ := linked
  obtain ⟨data, present, shows⟩ := shown base based
  exact ⟨data, present, shows.alike alike (sound.latest base based) (sound.previous handler opened)⟩

def exampleTrafficView (remarks : List String) : TrafficView :=
  let inbound (remark : String) (number : Int) : InboundRow := { (default : InboundRow) with id := number, remark }
  buildTrafficView (remarks.foldl (fun table remark => table.insert (inbound remark) fun _ => rfl) .empty) .empty
    .empty .empty

/-- One inbound is renamed, then another one comes and goes. -/
def streamedSession : TrafficSession :=
  arrive (restrict (fun action _ => action.streams) TrafficSession.step)
    [.connect (exampleTrafficView ["home"]) 0, .deliver, .tick (exampleTrafficView ["office", "garage"]) 2,
      .tick (exampleTrafficView ["office"]) 4, .deliver, .deliver]
    (.start none)

theorem SentEvent.Follows.times {sent : SentEvent} {base : Option TrafficV2Snapshot} (follows : sent.Follows base)
    (shown : Option SnapshotData) :
    (sent.event.apply shown).observedAt = sent.snapshot.observedAt ∧
      (sent.event.apply shown).windowSeconds = sent.snapshot.windowSeconds := by
  obtain ⟨event, current⟩ := sent
  cases event with
  | snapshot served =>
      have same : served = current := follows
      rw [TrafficStreamEvent.apply, same]
      exact ⟨rfl, rfl⟩
  | patch changes =>
      obtain ⟨_, prior, _, _, _, made⟩ := follows
      rw [TrafficStreamEvent.apply, made]
      exact ⟨rfl, rfl⟩

/-- A poll answered late has taken the new name of an inbound from the page again. -/
def polledSession : TrafficSession :=
  arrive TrafficSession.step
    [.connect (exampleTrafficView ["home"]) 0, .deliver, .tick (exampleTrafficView ["office"]) 2, .deliver,
      .poll (exampleTrafficView ["home"]) 1, .tick (exampleTrafficView ["office", "garage"]) 4]
    (.start none)

theorem polledSession_delivers : (polledSession.step .deliver).isSome := by with_unfolding_all decide

end MiGate.Web

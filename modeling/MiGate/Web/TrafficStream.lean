import MiGate.Transition.Reach
import MiGate.Web.TrafficPatch

namespace MiGate.Web

open Go Db Relational Transition

/-! The traffic stream between a handler of the server and a page that also polls. -/

def trafficV2StreamResyncEvery : Int := 12

inductive TrafficStreamEvent where
  | snapshot (served : TrafficV2Snapshot)
  | patch (changes : TrafficV2Patch)

/-- What a handler of the stream keeps from one tick to the next. -/
structure TrafficStreamHandler where
  previous : TrafficV2Snapshot
  resyncCountdown : Int

def openTrafficStream (snapshot : TrafficV2Snapshot) : TrafficStreamHandler where
  previous := snapshot
  resyncCountdown := trafficV2StreamResyncEvery

def TrafficStreamHandler.tick (handler : TrafficStreamHandler) (current : TrafficV2Snapshot) :
    TrafficStreamHandler × Option TrafficStreamEvent :=
  if handler.resyncCountdown ≤ 0 then (openTrafficStream current, some (.snapshot current))
  else
    let (patch, changed) := buildTrafficV2Patch handler.previous current
    ({ previous := current, resyncCountdown := handler.resyncCountdown - 1 },
      if changed then some (.patch patch) else none)

/-- What the listeners of `useTrafficStream` leave in the query cache. -/
def TrafficStreamEvent.apply (event : TrafficStreamEvent) (shown : Option SnapshotData) : SnapshotData :=
  match event with
  | .snapshot served => served.encode
  | .patch changes => mergeTrafficV2Snapshot shown changes.encode

/-- An event on its way, with the snapshot it was computed from. -/
structure SentEvent where
  event : TrafficStreamEvent
  snapshot : TrafficV2Snapshot

/-- One page and the handler of its stream.  `latest` is the snapshot behind the last event the
page has applied, and a part is `stale` if polling has since replaced it by something else, and
no later event has carried it. -/
structure TrafficSession where
  handler : Option TrafficStreamHandler
  flying : List SentEvent
  shown : Option SnapshotData
  latest : Option TrafficV2Snapshot
  stale : TrafficPart → Prop

def TrafficSession.start (held : Option SnapshotData) : TrafficSession where
  handler := none
  flying := []
  shown := held
  latest := none
  stale := fun _ => False

/-- The page opens the stream, the handler ticks, an event arrives, or the answer to a poll does. -/
inductive TrafficAction where
  | connect (view : TrafficView) (now : Int)
  | tick (view : TrafficView) (now : Int)
  | deliver
  | poll (view : TrafficView) (now : Int)

def TrafficSession.receive (session : TrafficSession) (sent : SentEvent) (rest : List SentEvent) : TrafficSession :=
  { session with
    flying := rest
    shown := some (sent.event.apply session.shown)
    latest := some sent.snapshot
    stale := fun part =>
      match sent.event with
      | .snapshot _ => False
      | .patch _ => session.stale part ∧ ∀ base, session.latest = some base → part.Same base sent.snapshot }

def TrafficSession.step (action : TrafficAction) (session : TrafficSession) : Option TrafficSession :=
  match action with
  | .connect view now =>
      let snapshot := buildTrafficV2Snapshot view now
      some { session with
        handler := some (openTrafficStream snapshot), flying := [⟨.snapshot snapshot, snapshot⟩] }
  | .tick view now =>
      session.handler.map fun handler =>
        let current := buildTrafficV2Snapshot view now
        let (handler, event) := handler.tick current
        { session with
          handler := some handler
          flying := session.flying ++ (event.map fun event => SentEvent.mk event current).toList }
  | .deliver =>
      match session.flying with
      | [] => none
      | sent :: rest => some (session.receive sent rest)
  | .poll view now =>
      let snapshot := buildTrafficV2Snapshot view now
      some { session with
        shown := some snapshot.encode
        stale := fun part => ∃ base, session.latest = some base ∧ ¬part.Shown snapshot.encode base }

/-! ### The events on their way -/

/-- Two snapshots that differ in the time of their making only. -/
def TrafficV2Snapshot.Alike (left right : TrafficV2Snapshot) : Prop :=
  ∀ part : TrafficPart, part.Same left right

variable {previous current base final : TrafficV2Snapshot} {data : SnapshotData} {session after : TrafficSession}

theorem TrafficPart.Same.trans {part : TrafficPart} (first : part.Same base previous)
    (second : part.Same previous current) : part.Same base current := by
  cases part with
  | total => exact Eq.trans first second
  | coverage => exact Eq.trans first second
  | inbound id => exact Eq.trans first second
  | client id => exact Eq.trans first second

theorem TrafficPart.Same.symm {part : TrafficPart} (same : part.Same previous current) :
    part.Same current previous := by
  cases part with
  | total => exact Eq.symm same
  | coverage => exact Eq.symm same
  | inbound id => exact Eq.symm same
  | client id => exact Eq.symm same

theorem TrafficPart.Same.shown {part : TrafficPart} (same : part.Same previous current) :
    part.Shown data previous ↔ part.Shown data current := by
  cases part with
  | total => exact iff_of_eq (congrArg (data.total = ·) same)
  | coverage => exact iff_of_eq (congrArg (fun coverage => data.coverage = TrafficV2Coverage.encode coverage) same)
  | inbound id => exact iff_of_eq (congrArg (Keyed.lookup TrafficV2Inbound.id data.inbounds id = ·) same)
  | client id => exact iff_of_eq (congrArg (Keyed.lookup TrafficV2Client.id data.clients id = ·) same)

theorem TrafficV2Snapshot.Alike.refl (snapshot : TrafficV2Snapshot) : snapshot.Alike snapshot := by
  intro part
  cases part <;> rfl

theorem TrafficV2Snapshot.Alike.trans (first : base.Alike previous) (second : previous.Alike current) :
    base.Alike current :=
  fun part => (first part).trans (second part)

theorem SnapshotData.Shows.alike (shows : data.Shows previous) (alike : previous.Alike current)
    (before : previous.Sound) (after : current.Sound) : data.Shows current := by
  have total : previous.total = current.total := alike .total
  refine ⟨?_, ?_, shows.distinct, fun part => (alike part).shown.mp (shows.parts part)⟩
  · rw [shows.observedAt, before.observedAt, after.observedAt, total]
  · rw [shows.windowSeconds, before.windowSeconds, after.windowSeconds, total]

/-- A patch that is not worth sending is one between alike snapshots. -/
theorem unchanged_alike (before : previous.Sound) (after : current.Sound)
    (unchanged : (buildTrafficV2Patch previous current).2 = false) : previous.Alike current := by
  simp only [buildTrafficV2Patch, Bool.or_eq_false_iff, Option.isSome_eq_false_iff, Option.isNone_iff_eq_none,
    Bool.not_eq_false', List.isEmpty_iff, and_assoc, ite_eq_left_iff, reduceCtorEq, imp_false, not_not] at unchanged
  obtain ⟨total, coverage, inbounds, removedInbounds, clients, removedClients⟩ := unchanged
  intro part
  cases part with
  | total => exact trafficV2TotalsEqual_iff.mp total
  | coverage => exact (trafficV2CoverageEqual_iff before.coverage).mp coverage
  | inbound id =>
      exact Keyed.lookup_eq_of_unchanged trafficV2InboundEqual_iff before.inbounds after.inbounds inbounds
        removedInbounds
  | client id =>
      exact Keyed.lookup_eq_of_unchanged trafficV2ClientEqual_iff before.clients after.clients clients
        removedClients

/-- An event can be applied to what shows a snapshot. -/
def SentEvent.Follows (sent : SentEvent) (base : Option TrafficV2Snapshot) : Prop :=
  match sent.event with
  | .snapshot served => served = sent.snapshot
  | .patch changes => ∃ shown prior, base = some shown ∧ shown.Alike prior ∧ prior.Sound ∧
      changes = (buildTrafficV2Patch prior sent.snapshot).1

/-- Events that lead from one snapshot to another. -/
def Linked (base : Option TrafficV2Snapshot) (flying : List SentEvent) (final : TrafficV2Snapshot) : Prop :=
  match flying with
  | [] => ∃ shown, base = some shown ∧ shown.Alike final
  | sent :: rest => sent.Follows base ∧ sent.snapshot.Sound ∧ Linked (some sent.snapshot) rest final

theorem Linked.alike {start : Option TrafficV2Snapshot} {flying : List SentEvent} (linked : Linked start flying final)
    (alike : final.Alike current) : Linked start flying current := by
  induction flying generalizing start with
  | nil =>
      obtain ⟨shown, based, same⟩ := linked
      exact ⟨shown, based, same.trans alike⟩
  | cons sent rest ih =>
      obtain ⟨follows, sound, tail⟩ := linked
      exact ⟨follows, sound, ih tail⟩

theorem Linked.append {start : Option TrafficV2Snapshot} {flying : List SentEvent} {sent : SentEvent}
    (linked : Linked start flying final) (sound : sent.snapshot.Sound)
    (follows : ∀ shown : TrafficV2Snapshot, shown.Alike final → sent.Follows (some shown)) :
    Linked start (flying ++ [sent]) sent.snapshot := by
  induction flying generalizing start with
  | nil =>
      obtain ⟨shown, rfl, same⟩ := linked
      exact ⟨follows shown same, sound, sent.snapshot, rfl, .refl _⟩
  | cons first rest ih =>
      obtain ⟨leads, firstSound, tail⟩ := linked
      exact ⟨leads, firstSound, ih tail⟩

theorem tick_previous (handler : TrafficStreamHandler) : (handler.tick current).1.previous = current := by
  unfold TrafficStreamHandler.tick
  split <;> rfl

/-- A tick without an event has seen nothing new. -/
theorem tick_silent {handler : TrafficStreamHandler} (before : handler.previous.Sound) (after : current.Sound)
    (silent : (handler.tick current).2 = none) : handler.previous.Alike current := by
  unfold TrafficStreamHandler.tick at silent
  split at silent
  · cases silent
  · cases changed : (buildTrafficV2Patch handler.previous current).2 with
    | true => simp [changed] at silent
    | false => exact unchanged_alike before after changed

theorem tick_follows {handler : TrafficStreamHandler} {event : TrafficStreamEvent} {shown : TrafficV2Snapshot}
    (before : handler.previous.Sound) (emitted : (handler.tick current).2 = some event)
    (same : shown.Alike handler.previous) : (SentEvent.mk event current).Follows (some shown) := by
  unfold TrafficStreamHandler.tick at emitted
  split at emitted
  · rw [← Option.some.inj emitted]
    rfl
  · cases changed : (buildTrafficV2Patch handler.previous current).2 with
    | true =>
        simp only [changed, if_true, Option.some.injEq] at emitted
        rw [← emitted]
        exact ⟨shown, handler.previous, rfl, same, before, rfl⟩
    | false => simp [changed] at emitted

/-! ### A session -/

structure SessionSound (session : TrafficSession) : Prop where
  unopened : session.handler = none → session.flying = []
  previous : ∀ handler, session.handler = some handler → handler.previous.Sound
  linked : ∀ handler, session.handler = some handler → Linked session.latest session.flying handler.previous
  latest : ∀ snapshot, session.latest = some snapshot → snapshot.Sound

/-- The page holds something once an event has come, and in each part that is not stale what the
last event was computed from. -/
def PartsShown (session : TrafficSession) : Prop :=
  ∀ snapshot, session.latest = some snapshot → ∃ data, session.shown = some data ∧ data.Distinct ∧
    ∀ part : TrafficPart, part.Shown data snapshot ↔ ¬session.stale part

theorem deliver_eq_some (stepped : session.step .deliver = some after) :
    ∃ sent rest, session.flying = sent :: rest ∧ after = session.receive sent rest := by
  cases queue : session.flying with
  | nil => simp [TrafficSession.step, queue] at stepped
  | cons sent rest =>
      simp only [TrafficSession.step, queue, Option.some.injEq] at stepped
      exact ⟨sent, rest, rfl, stepped.symm⟩

/-- What is first on its way can be applied, and leads to what the handler has sent last. -/
theorem SessionSound.first {sent : SentEvent} {rest : List SentEvent} (sound : SessionSound session)
    (queue : session.flying = sent :: rest) :
    ∃ handler, session.handler = some handler ∧ sent.Follows session.latest ∧ sent.snapshot.Sound ∧
      Linked (some sent.snapshot) rest handler.previous := by
  cases opened : session.handler with
  | none =>
      have empty := sound.unopened opened
      rw [queue] at empty
      cases empty
  | some handler =>
      have linked := sound.linked handler opened
      rw [queue] at linked
      exact ⟨handler, rfl, linked⟩

theorem step_sound {action : TrafficAction} (sound : SessionSound session)
    (stepped : session.step action = some after) : SessionSound after := by
  cases action with
  | connect view now =>
      rw [← Option.some.inj stepped]
      have built := buildTrafficV2Snapshot_sound view now
      refine ⟨nofun, ?_, ?_, sound.latest⟩
      · rintro handler opened
        rw [← Option.some.inj opened]
        exact built
      · rintro handler opened
        rw [← Option.some.inj opened]
        exact ⟨rfl, built, _, rfl, .refl _⟩
  | tick view now =>
      obtain ⟨handler, opened, done⟩ := Option.map_eq_some_iff.mp stepped
      have built := buildTrafficV2Snapshot_sound view now
      have linked := sound.linked handler opened
      have before := sound.previous handler opened
      rw [← done]
      refine ⟨nofun, ?_, ?_, sound.latest⟩
      · intro next ticked
        rw [← Option.some.inj ticked, tick_previous]
        exact built
      · intro next ticked
        rw [← Option.some.inj ticked, tick_previous]
        cases emitted : (handler.tick (buildTrafficV2Snapshot view now)).2 with
        | none =>
            simp only [emitted, Option.map_none, Option.toList_none, List.append_nil]
            exact linked.alike (tick_silent before built emitted)
        | some event =>
            simp only [emitted, Option.map_some, Option.toList_some]
            exact linked.append built fun shown same => tick_follows before emitted same
  | deliver =>
      obtain ⟨sent, rest, queue, rfl⟩ := deliver_eq_some stepped
      obtain ⟨handler, opened, _, fresh, linked⟩ := sound.first queue
      refine ⟨fun closed => absurd (opened.symm.trans closed) nofun, sound.previous, ?_, ?_⟩
      · intro other present
        cases Option.some.inj (opened.symm.trans present)
        exact linked
      · intro snapshot seen
        rw [← Option.some.inj seen]
        exact fresh
  | poll view now =>
      rw [← Option.some.inj stepped]
      exact ⟨sound.unopened, sound.previous, sound.linked, sound.latest⟩

theorem start_sound (held : Option SnapshotData) : SessionSound (.start held) where
  unopened := fun _ => rfl
  previous := nofun
  linked := nofun
  latest := nofun

variable {held : Option SnapshotData}

theorem session_sound (reached : Reach (Steps TrafficSession.step) (.start held) session) : SessionSound session :=
  reached.invariant (start_sound held) fun _ _ _ sound stepped => step_sound sound stepped

theorem receive_parts {sent : SentEvent} {rest : List SentEvent} (sound : SessionSound session)
    (shown : PartsShown session) (queue : session.flying = sent :: rest) : PartsShown (session.receive sent rest) := by
  obtain ⟨_, _, follows, fresh, _⟩ := sound.first queue
  intro snapshot seen
  rw [← Option.some.inj seen]
  obtain ⟨event, current⟩ := sent
  refine ⟨event.apply session.shown, rfl, ?_⟩
  dsimp only at follows fresh
  cases event with
  | snapshot served =>
      have same : served = current := follows
      rw [same]
      have shows := encode_shows fresh
      exact ⟨shows.distinct, fun part => iff_of_true (shows.parts part) id⟩
  | patch changes =>
      obtain ⟨base, prior, based, alike, before, made⟩ := follows
      obtain ⟨data, present, distinct, parts⟩ := shown base based
      rw [present, TrafficStreamEvent.apply, made]
      refine ⟨merge_distinct fresh distinct, fun part => ?_⟩
      have carried : part.Same prior current ↔ part.Same base current :=
        ⟨(alike part).trans, (alike part).symm.trans⟩
      have onlyBase : (∀ other, session.latest = some other → part.Same other current) ↔ part.Same base current :=
        ⟨fun all => all base based, fun same other there => Option.some.inj (based.symm.trans there) ▸ same⟩
      rw [merge_shown before fresh distinct part, ← (alike part).shown, parts part, carried]
      simp only [TrafficSession.receive, onlyBase]
      rw [not_and']

theorem step_parts {action : TrafficAction} (sound : SessionSound session) (shown : PartsShown session)
    (stepped : session.step action = some after) : PartsShown after := by
  cases action with
  | connect view now =>
      rw [← Option.some.inj stepped]
      exact shown
  | tick view now =>
      obtain ⟨handler, _, done⟩ := Option.map_eq_some_iff.mp stepped
      rw [← done]
      exact shown
  | deliver =>
      obtain ⟨sent, rest, queue, rfl⟩ := deliver_eq_some stepped
      exact receive_parts sound shown queue
  | poll view now =>
      rw [← Option.some.inj stepped]
      intro base based
      have served := (encode_shows (buildTrafficV2Snapshot_sound view now)).distinct
      refine ⟨_, rfl, served, fun part => ?_⟩
      constructor
      · rintro same ⟨other, there, differs⟩
        cases Option.some.inj (based.symm.trans there)
        exact differs same
      · intro fresh
        by_contra differs
        exact fresh ⟨base, based, differs⟩

theorem parts_shown (reached : Reach (Steps TrafficSession.step) (.start held) session) : PartsShown session :=
  reached.invariant_with (fun _ earlier => session_sound earlier) nofun fun _ _ _ sound shown stepped =>
    step_parts sound shown stepped

end MiGate.Web

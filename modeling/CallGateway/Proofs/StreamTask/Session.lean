/-
  CallGateway.Proofs.StreamTask.Session
  ─────────────────────────────────────
  **ONE STREAM AMONG OTHERS.**

  A session is one streaming call from when its handler begins.  The handler
  takes its steps, the caller looks for the signal, reads and goes, and others
  do with the feeds what they like, all of it in any order.  A call that fails
  at once stays without any effect (`Declined`).  One that follows a feed sends
  what its subscription yields, and quits the feed in the end (`Served`), which
  comes soon after the caller has gone (`Served.ended_of_closed`).
-/
import CallGateway.Proofs.StreamTask.Subscription

namespace CallGateway

/-! ## §1. Sessions. -/

/-- A streaming call, and what has come of it. -/
structure Session where
  task : StreamTask
  hub : Hub
  -- How many steps the handler has taken.
  worked : Nat := 0
  -- What the subscription has yielded.
  yielded : List Message := []
  -- The frames that were queued for the caller, and those that it has read.
  sent : List Bytes := []
  read : List Bytes := []

namespace Session

/-- A handler begins. -/
def start (handler : Handler) (capacity : Nat) (now : Instant) (hub : Hub) : Session :=
  let (task, hub) := StreamTask.start handler capacity now hub
  { task, hub }

/-- The frames that wait for the caller. -/
def frames (s : Session) : Queue Bytes := s.task.stream.frames

/-- The lines of what the subscription has yielded. -/
def lines (s : Session) : List Bytes := s.yielded.map Message.line

/-- The handler has come to this in a step, and has taken that from its
subscription. -/
def after (taken : Option Message) (result : Bool × StreamTask × Hub) (s : Session) : Session :=
  { s with
    task := result.2.1
    hub := result.2.2
    worked := s.worked + 1
    yielded := s.yielded ++ taken.toList
    sent := s.sent ++ result.2.1.stream.frames.items.drop s.frames.items.length }

/-- The handler takes a step. -/
def work (choices : List Bool) (heedPeer : Bool) (now : Instant) (s : Session) : Session :=
  s.after (s.task.yielded? choices heedPeer now s.hub) (s.task.stepBy choices heedPeer now s.hub)

/-- The caller reads. -/
def receive (sending : Bool) (s : Session) : Session :=
  let (found, stream) := s.task.stream.receive sending
  { s with task.stream := stream, read := s.read ++ found.item?.toList }

/-- What can happen next. -/
inductive Step (s : Session) : Session → Prop where
  | work (choices : List Bool) (heedPeer : Bool) (now : Instant) : Step s (s.work choices heedPeer now)
  | receive (sending : Bool) : Step s (s.receive sending)
  | lookSignal : Step s { s with task.stream := s.task.stream.lookSignal.2 }
  -- The caller wants no more, or goes.
  | close : Step s { s with task.stream := s.task.stream.close }
  | drop : Step s { s with task.stream := s.task.stream.drop }
  -- Others use the feeds, observe calls, or shut down.
  | others {hub : Hub} : s.hub.Happening hub → Step s { s with hub }

/-- Any number of steps. -/
abbrev Reaches : Session → Session → Prop := Relation.ReflTransGen Step

/-- **A handler that works until it waits** takes steps of a session. -/
theorem exists_reaches_run (s : Session) (now : Instant) :
    ∃ s', s.Reaches s' ∧ s'.task = (s.task.run now s.hub).1 ∧ s'.hub = (s.task.run now s.hub).2 := by
  let Reached (task : StreamTask) (hub : Hub) : Prop := ∃ s', s.Reaches s' ∧ s'.task = task ∧ s'.hub = hub
  have hstep : ∀ task hub, Reached task hub →
      Reached (task.step true now hub).2.1 (task.step true now hub).2.2 := by
    rintro task hub ⟨s', hreaches, rfl, rfl⟩
    rw [← StreamTask.stepBy_nil]
    exact ⟨s'.work [] true now, hreaches.tail (.work [] true now), rfl, rfl⟩
  exact StreamTask.run_induction now hstep ⟨s, .refl, rfl, rfl⟩

/-! ## §2. Steps of others. -/

/-- What a step leaves alone that is not the handler's. -/
structure Aside (s s' : Session) : Prop where
  activity : s'.task.activity = s.task.activity
  accepted : s'.task.stream.isAccepted = s.task.stream.isAccepted
  closed : s.task.stream.isClosed = true → s'.task.stream.isClosed = true
  hub : s.hub.Onward s'.hub
  worked : s'.worked = s.worked
  yielded : s'.yielded = s.yielded
  sent : s'.sent = s.sent
  -- What the caller reads was the first of the frames, as long as it is there.
  whole : s'.frames.reader ≠ .gone → s.frames.reader ≠ .gone ∧ s'.read ++ s'.frames.items = s.read ++ s.frames.items
  read : s'.frames.reader = .gone → s'.read = s.read

/-- A step of the caller that touches no frames. -/
theorem Aside.of_frames {s : Session} {stream : FrameStream} (haccepted : stream.isAccepted = s.task.stream.isAccepted)
    (hframes : stream.frames = s.task.stream.frames) : s.Aside { s with task.stream := stream } where
  activity := rfl
  accepted := haccepted
  closed hclosed := by
    show (stream.frames.reader != .listening) = true
    rw [hframes]
    exact hclosed
  hub := .refl _
  worked := rfl
  yielded := rfl
  sent := rfl
  whole hreader := by
    have hreader : stream.frames.reader ≠ .gone := hreader
    show _ ∧ s.read ++ stream.frames.items = _
    rw [hframes] at hreader ⊢
    exact ⟨hreader, rfl⟩
  read _ := rfl

theorem aside_receive (sending : Bool) (s : Session) : s.Aside (s.receive sending) where
  activity := rfl
  accepted := rfl
  closed hclosed := by
    show ((s.frames.receive sending).2.reader != .listening) = true
    rw [Queue.reader_receive]
    exact hclosed
  hub := .refl _
  worked := rfl
  yielded := rfl
  sent := rfl
  whole hreader := by
    have hreader : (s.frames.receive sending).2.reader ≠ .gone := hreader
    rw [Queue.reader_receive] at hreader
    refine ⟨hreader, ?_⟩
    show s.read ++ (s.frames.receive sending).1.item?.toList ++ (s.frames.receive sending).2.items = _
    rw [List.append_assoc, Queue.items_receive]
  read hgone := by
    have hgone : (s.frames.receive sending).2.reader = .gone := hgone
    rw [Queue.reader_receive] at hgone
    show s.read ++ (s.frames.receive sending).1.item?.toList = s.read
    unfold Queue.receive
    rw [hgone]
    exact List.append_nil _

/-- **A step is the handler's, or leaves alone what the handler has done.** -/
theorem Step.cases {s s' : Session} (h : s.Step s') :
    (∃ choices heedPeer now, s' = s.work choices heedPeer now) ∨ s.Aside s' := by
  cases h with
  | work choices heedPeer now => exact .inl ⟨choices, heedPeer, now, rfl⟩
  | receive sending => exact .inr (s.aside_receive sending)
  | lookSignal =>
    refine .inr (.of_frames ?_ rfl)
    unfold FrameStream.lookSignal FrameStream.isAccepted
    cases s.task.stream.signal with
    | waiting => rfl
    | given => rfl
    | taken => rfl
  | close =>
    refine .inr ⟨rfl, rfl, ?_, .refl _, rfl, rfl, rfl, ?_, fun _ => rfl⟩
    · intro _
      show (s.frames.close.reader != .listening) = true
      rw [Queue.reader_close]
      split
      · rfl
      · rfl
    · intro hreader
      have hreader : s.frames.close.reader ≠ .gone := hreader
      rw [Queue.reader_close] at hreader
      refine ⟨fun hgone => hreader (if_pos hgone), ?_⟩
      show s.read ++ s.frames.close.items = _
      rw [Queue.items_close]
  | drop => exact .inr ⟨rfl, rfl, fun _ => rfl, .refl _, rfl, rfl, rfl, fun hreader => absurd rfl hreader, fun _ => rfl⟩
  | others hhappening =>
    exact .inr ⟨rfl, rfl, id, hhappening.onward, rfl, rfl, rfl, fun hreader => ⟨hreader, rfl⟩, fun _ => rfl⟩

/-- What each step keeps, any number of them keeps. -/
theorem Reaches.induction {P : Session → Prop} (hwork : ∀ s choices heedPeer now, P s → P (s.work choices heedPeer now))
    (haside : ∀ s s', P s → s.Aside s' → P s') {s s' : Session} (hreaches : s.Reaches s') (h : P s) : P s' := by
  induction hreaches with
  | refl => exact h
  | tail _ hstep ih =>
    obtain ⟨choices, heedPeer, now, rfl⟩ | hstep := hstep.cases
    · exact hwork _ choices heedPeer now ih
    · exact haside _ _ ih hstep

/-! ## §3. Calls that are not accepted. -/

/-- The call fails, or has failed, and nothing was sent. -/
structure Declined (e : Failure) (s : Session) : Prop where
  activity : s.task.activity = .ended (.error e) ∨ s.task.activity = .performing [] (.error e) ∧ s.worked = 0
  accepted : s.task.stream.isAccepted = false
  sent : s.sent = []
  read : s.read = []
  waiting : s.frames.reader ≠ .gone → s.frames.items = []

/-- The handler broke off before its stream was accepted. -/
structure Broken (s : Session) : Prop where
  activity : s.task.activity = .brokenOff
  accepted : s.task.stream.isAccepted = false

section
variable {s s' : Session} {e : Failure} {choices : List Bool} {heedPeer : Bool} {now : Instant}

/-- A step that does nothing to the stream sends nothing. -/
theorem after_of_stream (taken : Option Message) (moved : Bool) (activity : Activity) (hub : Hub) (s : Session) :
    s.after taken (moved, { s.task with activity }, hub) = { s with
      task.activity := activity
      hub
      worked := s.worked + 1
      yielded := s.yielded ++ taken.toList } := by
  have hnothing : s.sent ++ s.frames.items.drop s.frames.items.length = s.sent := by
    rw [List.drop_length, List.append_nil]
  unfold after
  simp only [frames] at hnothing ⊢
  rw [hnothing]

/-- A call that fails does nothing but that. -/
theorem Declined.work_eq (h : s.Declined e) :
    s.work choices heedPeer now = { s with task.activity := .ended (.error e), worked := s.worked + 1 } := by
  obtain hended | ⟨hfails, -⟩ := h.activity
  · have hstep : s.task.stepBy choices heedPeer now s.hub
        = (false, { s.task with activity := .ended (.error e) }, s.hub) := by
      rw [StreamTask.stepBy_of_ended choices heedPeer now hended, ← hended]
    rw [work, hstep, StreamTask.yielded?_of_ended choices heedPeer now hended, after_of_stream]
    simp
  · rw [work, StreamTask.stepBy_of_nil choices heedPeer now hfails,
      StreamTask.yielded?_of_performing choices heedPeer now hfails, after_of_stream]
    simp

theorem Declined.work (h : s.Declined e) : (s.work choices heedPeer now).Declined e := by
  rw [h.work_eq]
  exact ⟨.inl rfl, h.accepted, h.sent, h.read, h.waiting⟩

theorem Declined.aside (h : s.Declined e) (haside : s.Aside s') : s'.Declined e := by
  have hread : s'.read = [] ∧ (s'.frames.reader ≠ .gone → s'.frames.items = []) := by
    by_cases hgone : s'.frames.reader = .gone
    · exact ⟨(haside.read hgone).trans h.read, fun hreader => absurd hgone hreader⟩
    · obtain ⟨hreader, hwhole⟩ := haside.whole hgone
      rw [h.read, h.waiting hreader, List.nil_append, List.append_eq_nil_iff] at hwhole
      exact ⟨hwhole.1, fun _ => hwhole.2⟩
  refine ⟨?_, haside.accepted.trans h.accepted, haside.sent.trans h.sent, hread.1, hread.2⟩
  rw [haside.activity, haside.worked]
  exact h.activity

/-- **A call that fails has sent nothing**, whatever happens meanwhile. -/
theorem Declined.reaches (h : s.Declined e) (hreaches : s.Reaches s') : s'.Declined e :=
  hreaches.induction (fun _ _ _ _ h => h.work) (fun _ _ h haside => h.aside haside) h

theorem Broken.reaches (h : s.Broken) (hreaches : s.Reaches s') : s'.Broken := by
  refine hreaches.induction ?_ ?_ h
  · intro s choices heedPeer now h
    have hstep : s.task.stepBy choices heedPeer now s.hub = (false, { s.task with activity := .brokenOff }, s.hub) := by
      rw [StreamTask.stepBy_of_brokenOff choices heedPeer now h.activity, ← h.activity]
    rw [work, hstep, after_of_stream]
    exact ⟨rfl, h.accepted⟩
  · intro s s' h haside
    exact ⟨haside.activity.trans h.activity, haside.accepted.trans h.accepted⟩

end

/-! ## §4. Calls that are accepted. -/

/-- The stream is accepted, and the handler follows its subscription or has
quit it.  The frames that were sent are the lines of what the subscription has
yielded, but for one at most: the one that the handler has in hand, or had when
the caller went. -/
structure Served (sub : Subscription) (e : Entry) (s : Session) : Prop where
  accepted : s.task.stream.isAccepted = true
  -- The subscriber has its place, and its id is not given again.
  entry : sub.entry? s.hub = some e
  old : e.id < (sub.exchange s.hub).nextId
  -- After the end it is not registered.
  course : (∃ inHand, s.task.activity = sub.following inHand ∧ s.lines = s.sent ++ inHand.toList)
    ∨ s.task.activity = .ended (.ok ()) ∧ e.id ∉ (sub.exchange s.hub).ids
      ∧ ∃ lost : Option Bytes, s.lines = s.sent ++ lost.toList ∧ (lost.isSome → s.task.stream.isClosed = true)
  -- The caller reads what was sent; the rest waits for it until it goes.
  read : s.read <+: s.sent
  waiting : s.frames.reader ≠ .gone → s.read ++ s.frames.items = s.sent

section
variable {s s' : Session} {sub : Subscription} {e : Entry} {choices : List Bool} {heedPeer : Bool} {now : Instant}

theorem Served.aside (h : s.Served sub e) (haside : s.Aside s') : s'.Served sub e := by
  have hlines : s'.lines = s.lines := congrArg (List.map Message.line) haside.yielded
  have honward := Subscription.onward_exchange haside.hub sub
  have hread : s'.read <+: s'.sent ∧ (s'.frames.reader ≠ .gone → s'.read ++ s'.frames.items = s'.sent) := by
    rw [haside.sent]
    by_cases hgone : s'.frames.reader = .gone
    · rw [haside.read hgone]
      exact ⟨h.read, fun hreader => absurd hgone hreader⟩
    · obtain ⟨hreader, hwhole⟩ := haside.whole hgone
      rw [h.waiting hreader] at hwhole
      exact ⟨⟨_, hwhole⟩, fun _ => hwhole⟩
  refine ⟨haside.accepted.trans h.accepted, Subscription.onward_entry? haside.hub h.entry,
    Nat.lt_of_lt_of_le h.old honward.nextId, ?_, hread.1, hread.2⟩
  rw [haside.activity, haside.sent, hlines]
  obtain hfollows | ⟨hended, hleft, lost, hlost, hclosed⟩ := h.course
  · exact .inl hfollows
  · exact .inr ⟨hended, honward.notMem h.old hleft, lost, hlost, fun hsome => haside.closed (hclosed hsome)⟩

/-- A step that does nothing to the stream. -/
theorem Served.after_of_stream (h : s.Served sub e) {taken : Option Message} {moved : Bool} {activity : Activity}
    {hub : Hub} (honward : s.hub.Onward hub)
    (hcourse : (∃ inHand, activity = sub.following inHand
        ∧ s.lines ++ (taken.map Message.line).toList = s.sent ++ inHand.toList)
      ∨ activity = .ended (.ok ()) ∧ e.id ∉ (sub.exchange hub).ids
        ∧ ∃ lost : Option Bytes, s.lines ++ (taken.map Message.line).toList = s.sent ++ lost.toList
          ∧ (lost.isSome → s.task.stream.isClosed = true)) :
    (s.after taken (moved, { s.task with activity }, hub)).Served sub e := by
  have hlines : (s.yielded ++ taken.toList).map Message.line = s.lines ++ (taken.map Message.line).toList := by
    rw [List.map_append, Option.toList_map]
    rfl
  rw [Session.after_of_stream]
  refine ⟨h.accepted, Subscription.onward_entry? honward h.entry,
    Nat.lt_of_lt_of_le h.old (Subscription.onward_exchange honward sub).nextId, ?_, h.read, h.waiting⟩
  show (∃ inHand, activity = sub.following inHand ∧ (s.yielded ++ taken.toList).map Message.line = _) ∨ _ ∧ _
    ∧ ∃ lost, (s.yielded ++ taken.toList).map Message.line = _ ∧ _
  rw [hlines]
  exact hcourse

/-- **Whatever its handler does, the stream is served.** -/
theorem Served.deed (h : s.Served sub e) {asked : Polled Message × Hub} (hasked : s.hub.Onward asked.2)
    {inHand : Option Bytes} (hactivity : s.task.activity = sub.following inHand)
    (hlines : s.lines = s.sent ++ inHand.toList) {taken : Option Message} {result : Bool × StreamTask × Hub}
    (hdeed : StreamTask.Deed sub s.task s.hub asked inHand taken result) : (s.after taken result).Served sub e := by
  have hentry := Subscription.onward_entry? hasked h.entry
  have hquits := fun hub => Subscription.onward_quit hub sub
  have hnothing : s.lines ++ ((none : Option Message).map Message.line).toList = s.sent ++ inHand.toList :=
    (List.append_nil _).trans hlines
  cases hdeed with
  | @takes m hready =>
    refine h.after_of_stream hasked (.inl ⟨some m.line, rfl, ?_⟩)
    rw [hlines]
    exact congrArg (· ++ [m.line]) (List.append_nil s.sent)
  | waits hpending hlistening => exact h.after_of_stream hasked (.inl ⟨none, hactivity, hnothing⟩)
  | turnsAway hclosed =>
    exact h.after_of_stream (hquits s.hub) (.inr ⟨rfl, Subscription.notMem_quit h.entry, none, hnothing, nofun⟩)
  | quits hended =>
    exact h.after_of_stream (hasked.trans (hquits asked.2))
      (.inr ⟨rfl, Subscription.notMem_quit hentry, none, hnothing, nofun⟩)
  | @sends frame hverdict =>
    have hsent : (s.frames.items ++ [frame]).drop s.frames.items.length = [frame] := List.drop_left
    have hyielded : (s.after none (true, ⟨sub.following none, { s.task.stream with
        frames := { s.frames with items := s.frames.items ++ [frame] } }⟩, s.hub)).lines = s.lines :=
      congrArg (List.map Message.line) (List.append_nil s.yielded)
    refine ⟨h.accepted, h.entry, h.old, .inl ⟨none, rfl, ?_⟩, ?_, fun hreader => ?_⟩
    · show _ = s.sent ++ (s.frames.items ++ [frame]).drop s.frames.items.length ++ []
      rw [hsent, List.append_nil]
      exact hyielded.trans hlines
    · exact h.read.trans (List.prefix_append _ _)
    · show s.read ++ (s.frames.items ++ [frame]) = s.sent ++ (s.frames.items ++ [frame]).drop s.frames.items.length
      rw [hsent, ← List.append_assoc, h.waiting hreader]
  | holds hverdict => exact h.after_of_stream (.refl s.hub) (.inl ⟨some _, hactivity, hnothing⟩)
  | @loses frame hclosed =>
    exact h.after_of_stream (hquits s.hub)
      (.inr ⟨rfl, Subscription.notMem_quit h.entry, some frame, hnothing, fun _ => hclosed⟩)

theorem Served.work (h : s.Served sub e) : (s.work choices heedPeer now).Served sub e := by
  obtain ⟨inHand, hactivity, hlines⟩ | ⟨hended, hleft, hlost⟩ := h.course
  · exact h.deed (Subscription.onward_ask choices now s.hub sub) hactivity hlines
      (StreamTask.deed hactivity choices heedPeer now s.hub)
  · rw [Session.work, StreamTask.stepBy_of_ended choices heedPeer now hended,
      StreamTask.yielded?_of_ended choices heedPeer now hended]
    refine h.after_of_stream (.refl s.hub) (.inr ⟨hended, hleft, ?_⟩)
    rw [Option.map_none, Option.toList_none, List.append_nil]
    exact hlost

/-- **An accepted stream is served to the end**, whatever happens meanwhile. -/
theorem Served.reaches (h : s.Served sub e) (hreaches : s.Reaches s') : s'.Served sub e :=
  hreaches.induction (fun _ _ _ _ h => h.work) (fun _ _ h haside => h.aside haside) h

end

/-! ## §5. How a stream comes to its end. -/

section
variable {s s' : Session} {sub : Subscription} {e : Entry} {choices : List Bool} {heedPeer : Bool} {now : Instant}

/-- A handler does nothing only while the caller is there, and only for want of
room or of records, when someone could still hand it one. -/
theorem Served.of_idle (h : s.Served sub e) (hended : s.task.isEnded = false)
    (hidle : (s.task.stepBy choices heedPeer now s.hub).1 = false) : s.task.stream.isClosed = false
      ∧ (s.frames.capacity ≤ s.frames.items.length ∨ (sub.exchange s.hub).hasSender e.queue = true) := by
  obtain ⟨inHand, hactivity, -⟩ | ⟨hactivity, -⟩ := h.course
  · obtain ⟨hlistening, hfull | hpending⟩ := (StreamTask.deed hactivity choices heedPeer now s.hub).of_idle hidle
    · exact ⟨hlistening, .inl hfull⟩
    · obtain ⟨e', hentry, hsender⟩ := Subscription.hasSender_of_ask hpending
      obtain rfl : e' = e := Option.some.inj (hentry.symm.trans h.entry)
      exact ⟨hlistening, .inr hsender⟩
  · unfold StreamTask.isEnded StreamTask.outcome? at hended
    rw [hactivity] at hended
    cases hended

/-- The caller is gone, and the handler goes too when it has taken two steps more
than it had taken then. -/
structure Leaving (sub : Subscription) (before : Nat) (s : Session) : Prop where
  closed : s.task.stream.isClosed = true
  course : s.task.activity = .ended (.ok ()) ∨ s.task.activity = sub.following none ∧ s.worked ≤ before
    ∨ ∃ frame, s.task.activity = sub.following (some frame) ∧ s.worked ≤ before + 1

variable {before : Nat}

theorem Leaving.work (h : s.Leaving sub before) : (s.work choices heedPeer now).Leaving sub before := by
  have hfollows : ∀ {inHand : Option Bytes}, s.task.activity = sub.following inHand →
      (inHand = none → s.worked ≤ before) → (s.work choices heedPeer now).Leaving sub before := by
    intro inHand hactivity hworked
    obtain ⟨hstream, hcourse⟩ := (StreamTask.deed hactivity choices heedPeer now s.hub).of_closed h.closed
    refine ⟨(congrArg FrameStream.isClosed hstream).trans h.closed, ?_⟩
    obtain hended | ⟨hnone, hsome⟩ := hcourse
    · exact .inl hended
    · obtain ⟨frame, hframe⟩ := hsome
      exact .inr (.inr ⟨frame, hframe, Nat.succ_le_succ (hworked hnone)⟩)
  obtain hended | ⟨hactivity, hworked⟩ | ⟨frame, hactivity, -⟩ := h.course
  · rw [Session.work, StreamTask.stepBy_of_ended choices heedPeer now hended]
    exact ⟨h.closed, .inl hended⟩
  · exact hfollows hactivity fun _ => hworked
  · exact hfollows hactivity nofun

theorem Leaving.aside (h : s.Leaving sub before) (haside : s.Aside s') : s'.Leaving sub before := by
  refine ⟨haside.closed h.closed, ?_⟩
  rw [haside.activity, haside.worked]
  exact h.course

/-- **When the caller is gone, the handler ends well**, with its second step at
the latest. -/
theorem Served.ended_of_closed (h : s.Served sub e) (hclosed : s.task.stream.isClosed = true)
    (hreaches : s.Reaches s') (hworked : s.worked + 2 ≤ s'.worked) : s'.task.activity = .ended (.ok ()) := by
  have hleaving : s.Leaving sub s.worked := by
    refine ⟨hclosed, ?_⟩
    obtain ⟨inHand, hactivity, -⟩ | ⟨hended, -⟩ := h.course
    · cases inHand with
      | none => exact .inr (.inl ⟨hactivity, Nat.le_refl _⟩)
      | some frame => exact .inr (.inr ⟨frame, hactivity, Nat.le_succ _⟩)
    · exact .inl hended
  have hleaving : s'.Leaving sub s.worked :=
    hreaches.induction (fun _ _ _ _ h => h.work) (fun _ _ h haside => h.aside haside) hleaving
  obtain hended | ⟨-, hle⟩ | ⟨frame, -, hle⟩ := hleaving.course
  · exact hended
  · omega
  · omega

end

end Session

end CallGateway

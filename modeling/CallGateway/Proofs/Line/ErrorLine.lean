/-
  CallGateway.Proofs.Line.ErrorLine
  ─────────────────────────────────
  **THE LINE OF A FAILURE STANDS APART.**

  A reader passes over members that it does not know, and some fields may be
  missing, so one message could be taken for another.  It is not where the type
  needs a field that was not written (`MadeOf.fields?_of_disjoint`): names of
  counts stand one level deeper and are no fields.  So on the streams of the
  administration service the line that tells of a failure is told from the data
  by its fields (`error_and_data_lines_disjoint`).
-/
import CallGateway.Proofs.AdminStreams

namespace CallGateway

open Json.Surface

/-! ## §1. Messages with other fields. -/

section
variable {α β : Type} [Wire α] [Wire β] {m : α} {fields : List Field}

/-- Where no name was written, there is no field. -/
theorem MadeOf.fields?_of_disjoint (h : MadeOf fields m) {names : List String}
    (hnames : ∀ name ∈ names, name ∉ fields.map (·.1)) :
    Json.Surface.fields? names (objectForm fields) = some (names.map fun _ => none) := by
  rw [h.fields?]
  refine congrArg some (List.map_congr_left fun name hname => Entries.lookup_eq_none_iff.2 fun form hmem => ?_)
  obtain ⟨f, hf, heq⟩ := List.mem_map.1 hmem
  exact hnames name hname (List.mem_map.2 ⟨f, hf, congrArg Prod.fst heq⟩)

/-- A line is refused if nothing is made of fields that are all missing, and if
the message has none of them. -/
theorem MadeOf.decodeLine_eq_error (h : MadeOf fields m) {names : List String}
    (hnames : ∀ name ∈ names, name ∉ fields.map (·.1)) (hlimit : Wire.nestingLimit β = none)
    (hmissing : ∀ s, Json.Surface.fields? names s = some (names.map fun _ => none) →
      (Wire.ofSurface? s : Option β) = none) :
    decodeLine β (encodeLine m) = .error (.badRequest "invalid ndjson line") := by
  have hread : CallGateway.readMessage? β (Wire.render m) = none :=
    (h.readMessage? hlimit).trans (hmissing _ (h.fields?_of_disjoint hnames))
  rw [decodeLine, encodeLine, trimNewline_append, hread]

end

theorem ErrorFrame.ofSurface?_eq_none {s : Json.Surface} (h : fields? ["error", "message"] s = some [none, none]) :
    (Wire.ofSurface? s : Option ErrorFrame) = none := by
  show (fields? ["error", "message"] s >>= _) = none
  rw [h]
  rfl

theorem Event.ofSurface?_eq_none {s : Json.Surface}
    (h : fields? ["timestamp", "consumer", "method", "host"] s = some [none, none, none, none]) :
    (Wire.ofSurface? s : Option Event) = none := by
  show (fields? ["timestamp", "consumer", "method", "host"] s >>= _) = none
  rw [h]
  rfl

/-- A report may go without counts, but not without its time. -/
theorem Stat.ofSurface?_eq_none {s : Json.Surface}
    (h : fields? ["timestamp", "by_method", "by_consumer"] s = some [none, none, none]) :
    (Wire.ofSurface? s : Option Stat) = none := by
  show (fields? ["timestamp", "by_method", "by_consumer"] s >>= _) = none
  rw [h]
  rfl

/-- No event is read as an error frame, and no report. -/
theorem Event.refused_as_errorFrame (m : Event) :
    decodeLine ErrorFrame (encodeLine m) = .error (.badRequest "invalid ndjson line") :=
  m.madeOf.decodeLine_eq_error (by simp [Event.fields, intField, textField]) rfl
    fun _ => ErrorFrame.ofSurface?_eq_none

theorem Stat.refused_as_errorFrame (m : Stat) :
    decodeLine ErrorFrame (encodeLine m) = .error (.badRequest "invalid ndjson line") :=
  m.madeOf.decodeLine_eq_error (by simp [Stat.fields, intField, countsField]) rfl
    fun _ => ErrorFrame.ofSurface?_eq_none

/-- No error frame is read as an event, and none as a report. -/
theorem ErrorFrame.refused_as_event (f : ErrorFrame) :
    decodeLine Event (encodeLine f) = .error (.badRequest "invalid ndjson line") :=
  f.madeOf.decodeLine_eq_error (by simp [ErrorFrame.fields, textField]) rfl fun _ => Event.ofSurface?_eq_none

theorem ErrorFrame.refused_as_stat (f : ErrorFrame) :
    decodeLine Stat (encodeLine f) = .error (.badRequest "invalid ndjson line") :=
  f.madeOf.decodeLine_eq_error (by simp [ErrorFrame.fields, textField]) rfl fun _ => Stat.ofSurface?_eq_none

/-! ## §2. The lines of the administration's streams. -/

/-- The line holds an event or a report. -/
def IsDataLine (line : Bytes) : Prop := (∃ m : Event, line = encodeLine m) ∨ ∃ m : Stat, line = encodeLine m

/-- Whatever a subscription has is data. -/
theorem Subscription.isDataLine_of_ask {sub : Subscription} {choices : List Bool} {now : Instant} {hub : Hub}
    {m : Message} (h : (sub.ask choices now hub).1.ready? = some m) : IsDataLine m.line := by
  have of_map : ∀ {α : Type} {f : α → Message} {p : Polled α}, (p.map f).ready? = some m → ∃ a, f a = m := by
    intro α f p hp
    cases p with
    | ready a => exact ⟨a, Option.some.inj hp⟩
    | pending => cases hp
    | ended => cases hp
  cases sub with
  | log place =>
    obtain ⟨r, rfl⟩ := of_map h
    exact .inl ⟨r.toEvent, rfl⟩
  | stats place =>
    obtain ⟨snapshot, rfl⟩ := of_map h
    exact .inr ⟨snapshot.toStat now.wall, rfl⟩

theorem StreamTask.isDataLine_of_yielded? {t : StreamTask} {choices : List Bool} {heedPeer : Bool} {now : Instant}
    {hub : Hub} {m : Message} (h : t.yielded? choices heedPeer now hub = some m) : IsDataLine m.line := by
  have of_asked : ∀ sub, yielded?.asked choices heedPeer now t hub sub = some m → IsDataLine m.line := by
    intro sub hasked
    unfold yielded?.asked at hasked
    split at hasked
    · cases hasked
    · exact Subscription.isDataLine_of_ask hasked
  unfold yielded? at h
  split at h
  · exact of_asked _ h
  · exact of_asked _ h
  · cases h

namespace Session

section
variable {s s' : Session} {sub : Subscription} {e : Entry}

/-- **A session takes nothing but data** from its subscription. -/
theorem Reaches.isDataLine (hreaches : s.Reaches s') (h : ∀ line ∈ s.lines, IsDataLine line) :
    ∀ line ∈ s'.lines, IsDataLine line := by
  refine hreaches.induction (P := fun s => ∀ line ∈ s.lines, IsDataLine line) ?_ ?_ h
  · intro s choices heedPeer now ih line hline
    obtain ⟨m, hm, rfl⟩ := List.mem_map.1 hline
    rcases List.mem_append.1 hm with hm | hm
    · exact ih _ (List.mem_map_of_mem hm)
    · exact StreamTask.isDataLine_of_yielded? (Option.mem_toList.1 hm)
  · intro s s' ih haside
    unfold lines
    rw [haside.yielded]
    exact ih

/-- What was sent was taken from the subscription. -/
theorem Served.mem_lines (h : s.Served sub e) {line : Bytes} (hline : line ∈ s.sent) : line ∈ s.lines := by
  obtain ⟨inHand, -, hlines⟩ | ⟨-, -, lost, hlines, -⟩ := h.course
  · rw [hlines]
    exact List.mem_append_left _ hline
  · rw [hlines]
    exact List.mem_append_left _ hline

/-- A handler that broke off sends nothing more. -/
theorem Broken.sent_eq (h : s.Broken) (hreaches : s.Reaches s') : s'.sent = s.sent := by
  refine (hreaches.induction (P := fun s' => s'.Broken ∧ s'.sent = s.sent) ?_ ?_ ⟨h, rfl⟩).2
  · rintro s choices heedPeer now ⟨hbroken, hsent⟩
    have hstep : s.task.stepBy choices heedPeer now s.hub = (false, { s.task with activity := .brokenOff }, s.hub) := by
      rw [StreamTask.stepBy_of_brokenOff choices heedPeer now hbroken.activity, ← hbroken.activity]
    refine ⟨hbroken.reaches (.single (.work choices heedPeer now)), ?_⟩
    rw [work, hstep, after_of_stream]
    exact hsent
  · rintro s s' ⟨hbroken, hsent⟩ haside
    exact ⟨⟨haside.activity.trans hbroken.activity, haside.accepted.trans hbroken.accepted⟩, haside.sent.trans hsent⟩

/-- **All that an administration stream carries is data.** -/
theorem isDataLine_of_sent {handler : Handler} (h : handler.IsStandard) {capacity : Nat} {now : Instant} {hub : Hub}
    (hreaches : (start handler capacity now hub).Reaches s) : ∀ line ∈ s.sent, IsDataLine line := by
  intro line hline
  obtain ⟨e, hdeclined, -⟩ | hbroken | ⟨sub, e, hserved, -⟩ := start_cases h capacity now hub
  · rw [(hdeclined.reaches hreaches).sent] at hline
    cases hline
  · rw [hbroken.sent_eq hreaches] at hline
    cases hline
  · exact hreaches.isDataLine (fun _ hnone => nomatch hnone) line ((hserved.reaches hreaches).mem_lines hline)

end

end Session

/-- **What is reported of a failed stream is an error frame.** -/
theorem OpenStream.exists_errorFrame {s : OpenStream} {hub : Hub} {line : Bytes} (hwatching : s.supervision = .watching)
    (h : (s.supervise hub).2.1.supervision = .reporting line) : ∃ f : ErrorFrame, line = encodeLine f := by
  unfold supervise at h
  rw [hwatching] at h
  rcases houtcome : s.task.outcome? with _ | e | _
  · simp only [houtcome, hwatching] at h
    cases h
  · simp only [houtcome] at h
    exact ⟨.ofFailure e, (Supervision.reporting.inj h).symm⟩
  · simp only [houtcome] at h
    cases h

/-! ## §3. The theorem. -/

/-- **A line that tells of a failure cannot be taken for data, nor data for it**,
whatever their fields hold.  So it is for all lines of the administration's
streams, whatever happens to a stream: each is read as an event or as a report
and at no time as an error frame.  And the line that is reported of any stream
that failed is read as an error frame, and neither as an event nor as a report. -/
theorem error_and_data_lines_disjoint :
    (∀ m : Event, decodeLine ErrorFrame (encodeLine m) = .error (.badRequest "invalid ndjson line"))
      ∧ (∀ m : Stat, decodeLine ErrorFrame (encodeLine m) = .error (.badRequest "invalid ndjson line"))
      ∧ (∀ f : ErrorFrame, decodeLine Event (encodeLine f) = .error (.badRequest "invalid ndjson line")
        ∧ decodeLine Stat (encodeLine f) = .error (.badRequest "invalid ndjson line"))
      ∧ (∀ maxIntervalSecs call req capacity now hub s,
        (Session.start ((Service.admin maxIntervalSecs).stream call req) capacity now hub).Reaches s →
          ∀ line ∈ s.sent, decodeLine ErrorFrame line = .error (.badRequest "invalid ndjson line")
            ∧ ((∃ m, decodeLine Event line = .ok m) ∨ ∃ m, decodeLine Stat line = .ok m))
      ∧ ∀ (s : OpenStream) hub line, s.supervision = .watching → (s.supervise hub).2.1.supervision = .reporting line →
        (∃ f, decodeLine ErrorFrame line = .ok f)
          ∧ decodeLine Event line = .error (.badRequest "invalid ndjson line")
          ∧ decodeLine Stat line = .error (.badRequest "invalid ndjson line") := by
  refine ⟨Event.refused_as_errorFrame, Stat.refused_as_errorFrame,
    fun f => ⟨f.refused_as_event, f.refused_as_stat⟩, ?_, ?_⟩
  · intro maxIntervalSecs call req capacity now hub s hreaches line hline
    have hstandard := Gateway.isStandard_admin maxIntervalSecs call req
    obtain ⟨m, rfl⟩ | ⟨m, rfl⟩ := Session.isDataLine_of_sent hstandard hreaches line hline
    · exact ⟨m.refused_as_errorFrame, .inl ⟨m, m.travels.decodeLine_line⟩⟩
    · exact ⟨m.refused_as_errorFrame, .inr ⟨m, m.travels.decodeLine_line⟩⟩
  · intro s hub line hwatching hreporting
    obtain ⟨f, rfl⟩ := OpenStream.exists_errorFrame hwatching hreporting
    exact ⟨⟨f, f.travels.decodeLine_line⟩, f.refused_as_event, f.refused_as_stat⟩

/-- A consumer that calls itself by the fields of an error frame, on the log stream;
and a failure that speaks of a time. -/
theorem consumer_named_like_fields : ∃ (s₀ s : Session) (m : Event) (stream : OpenStream) (line : Bytes),
    s₀ = Session.start ((Service.admin 60).stream
        ⟨⟨"main.Admin", "Logging", ⟨by decide, by decide⟩, ⟨by decide, by decide⟩⟩, "tester", "unknown"⟩ .null)
        1 ⟨0, 0⟩ (.start 4 2)
      ∧ s₀.Reaches s ∧ s.sent = [encodeLine m] ∧ m.consumer = "\",\"error\":\"\",\"message\":\""
      ∧ decodeLine ErrorFrame (encodeLine m) = .error (.badRequest "invalid ndjson line")
      ∧ stream.supervision = .watching ∧ (stream.supervise s.hub).2.1.supervision = .reporting line
      ∧ decodeLine Stat line = .error (.badRequest "invalid ndjson line") := by
  let call : Call := ⟨⟨"main.Admin", "Logging", ⟨by decide, by decide⟩, ⟨by decide, by decide⟩⟩, "tester", "unknown"⟩
  let late : Call := { call with consumer := "\",\"error\":\"\",\"message\":\"" }
  let s₀ := Session.start ((Service.admin 60).stream call .null) 1 ⟨0, 0⟩ (.start 4 2)
  let observed : Session := { s₀ with hub := s₀.hub.observe true 0 late }
  let dispatched : Session := { observed with hub := { observed.hub with log := (observed.hub.log.dispatch {}).1 } }
  let s : Session := (dispatched.work [] true ⟨1, 0⟩).work [] true ⟨2, 0⟩
  have hdispatched : s₀.Reaches dispatched :=
    .tail (.single (.others (.observed true 0 late))) (.others (.dispatched {}))
  have hreaches : s₀.Reaches s := hdispatched.trans (.tail (.single (.work [] true ⟨1, 0⟩)) (.work [] true ⟨2, 0⟩))
  let m : Event := ⟨0, late.consumer, late.method.full, "unknown"⟩
  have hsent : s.sent = [encodeLine m] := by decide +kernel
  let stream : OpenStream := { task := ⟨.ended (.error (.notFound "timestamp")), .start 1⟩ }
  obtain ⟨-, -, -, hdata, hfailed⟩ := error_and_data_lines_disjoint
  have hline := hdata 60 call .null 1 ⟨0, 0⟩ (.start 4 2) s hreaches (encodeLine m) (hsent ▸ List.mem_cons_self)
  exact ⟨s₀, s, m, stream, _, rfl, hreaches, hsent, rfl, hline.1, rfl, rfl, (hfailed stream s.hub _ rfl rfl).2.2⟩

end CallGateway

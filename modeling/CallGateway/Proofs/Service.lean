/-
  CallGateway.Proofs.Service
  ──────────────────────────
  **WHAT THE ADMINISTRATION SERVICE DOES FOR A CALL.**

  A streaming call of the service follows the log, or the statistics at an
  interval that is allowed.  Any other call fails at once, as a bad request or
  as one for a method that there is not (`stream_admin_cases`).
-/
import CallGateway.Service

namespace CallGateway

open Json (Value)

namespace Service

/-- A request that is no message of the method is a bad request. -/
theorem code_of_parseRequest {α : Type} [Transferable α] {v : Value} {e : Failure}
    (h : parseRequest α v = .error e) : e.code = .badRequest := by
  unfold parseRequest at h
  split at h
  · cases h
  · cases hvalue : (Transferable.ofValue v : Except RequestFault α) with
    | ok m =>
      rw [hvalue] at h
      cases h
    | error fault =>
      rw [hvalue] at h
      cases h
      rfl

/-- An interval is one of those that are allowed, or the call is a bad request. -/
theorem statistics_cases (maxIntervalSecs : Nat) (m : StatInterval) :
    (1 ≤ m.intervalSeconds.toNat ∧ m.intervalSeconds.toNat ≤ maxIntervalSecs
        ∧ statistics maxIntervalSecs m = .followStats m.intervalSeconds.toNat)
      ∨ ∃ e, statistics maxIntervalSecs m = .fail e ∧ e.code = .badRequest := by
  unfold statistics
  simp only
  split
  · exact .inr ⟨_, rfl, rfl⟩
  · rename_i hinterval
    exact .inl ⟨by omega, by omega, rfl⟩

/-- **What is to be done for a streaming call** of the service. -/
theorem stream_admin_cases (maxIntervalSecs : Nat) (call : Call) (req : Value) :
    (call.method.method = "Logging" ∧ (admin maxIntervalSecs).stream call req = .followLog)
      ∨ (∃ m : StatInterval, call.method.method = "Statistics" ∧ parseRequest StatInterval req = .ok m
        ∧ 1 ≤ m.intervalSeconds.toNat ∧ m.intervalSeconds.toNat ≤ maxIntervalSecs
        ∧ (admin maxIntervalSecs).stream call req = .followStats m.intervalSeconds.toNat)
      ∨ ∃ e, (admin maxIntervalSecs).stream call req = .fail e ∧ (e.code = .badRequest ∨ e.code = .notFound) := by
  unfold admin
  simp only
  split
  · rename_i hmethod
    cases hreq : parseRequest Nothing req with
    | ok m => exact .inl ⟨hmethod, rfl⟩
    | error e => exact .inr (.inr ⟨e, rfl, .inl (code_of_parseRequest hreq)⟩)
  · split
    · rename_i hmethod
      cases hreq : parseRequest StatInterval req with
      | ok m =>
        obtain ⟨hleast, hmost, hfollows⟩ | ⟨e, hfail, hcode⟩ := statistics_cases maxIntervalSecs m
        · exact .inr (.inl ⟨m, hmethod, rfl, hleast, hmost, hfollows⟩)
        · exact .inr (.inr ⟨e, hfail, .inl hcode⟩)
      | error e => exact .inr (.inr ⟨e, rfl, .inl (code_of_parseRequest hreq)⟩)
    · exact .inr (.inr ⟨_, rfl, .inr rfl⟩)

/-- A request for statistics that is `null` asks for an interval of zero. -/
theorem stream_admin_of_null {call : Call} (h : call.method.method = "Statistics") (maxIntervalSecs : Nat) :
    (admin maxIntervalSecs).stream call .null
      = .fail (.badRequest ("interval_seconds must be between 1 and " ++ toString maxIntervalSecs)) := by
  unfold admin
  simp only [h]
  rfl

end Service

end CallGateway

/-
  CallGateway.Proofs.Config
  ─────────────────────────
  **WHAT A VALID CONFIGURATION IS.**

  A validation goes through its checks one by one and tells the first fault.
  Together the checks say that the version is the one that is read and that
  everything else is within its bounds (`Config.validate_cases`), and only the
  version is told with a code of its own.  A configuration that was loaded from
  a text has been validated (`Config.ofYaml_eq_ok_iff`).
-/
import CallGateway.Config.Yaml
import CallGateway.Proofs.Outcome
import Mathlib.Logic.Basic

namespace CallGateway

namespace ServerConfig

/-- A server listens on an address, and its numbers are within their bounds. -/
structure InBounds (s : ServerConfig) : Prop where
  listen : ∃ a, SocketAddress.parse? s.listen = some a
  eventBuffer : 1 ≤ s.eventBuffer ∧ s.eventBuffer ≤ 65536
  subscriberBuffer : 1 ≤ s.subscriberBuffer ∧ s.subscriberBuffer ≤ 65536
  maxStatsInterval : 1 ≤ s.maxStatsIntervalSecs ∧ s.maxStatsIntervalSecs ≤ 86400
  drainTimeout : s.drainTimeoutMs ≤ 60000

theorem fault?_eq_none_iff {s : ServerConfig} : s.fault? = none ↔ s.InBounds := by
  unfold fault?
  simp only [ite_eq_iff, reduceCtorEq, and_false, false_or, and_true, Decidable.not_not, Nat.not_lt,
    Option.isNone_iff_eq_none, ← ne_eq, Option.ne_none_iff_exists']
  constructor
  · intro ⟨hlisten, hevent, hsubscriber, hinterval, hdrain⟩
    exact ⟨hlisten, hevent, hsubscriber, hinterval, hdrain⟩
  · intro h
    exact ⟨h.listen, h.eventBuffer, h.subscriberBuffer, h.maxStatsInterval, h.drainTimeout⟩

/-- A server knows nothing of versions. -/
theorem fault?_ne_version (s : ServerConfig) : s.fault? ≠ some .version := by
  unfold fault?
  simp only [ne_eq, ite_eq_iff, Option.some.injEq, reduceCtorEq, and_false, false_or, not_false_eq_true]

end ServerConfig

namespace ConfigFault

/-- Only a wrong version has a code of its own. -/
theorem code_failure (fault : ConfigFault) :
    fault.failure.code = if fault = .version then .unsupportedVersion else .badRequest := by
  cases fault <;> rfl

/-- A text that is no address is told otherwise than by a server that starts. -/
theorem failure_ne (fault : ConfigFault) : fault.failure ≠ .badRequest "server.listen is not a SocketAddr" := by
  cases fault with
  | listen text =>
    intro h
    have hlist := congrArg String.toList (Failure.badRequest.inj h)
    simp at hlist
  | _ => simp [failure]

end ConfigFault

namespace Config

/-- Every consumer has a name, and the server is within its bounds. -/
structure InBounds (c : Config) : Prop where
  consumers : ∀ entry ∈ c.acl, entry.1 ≠ ""
  server : c.server.InBounds

theorem fault?_of_version {c : Config} (h : c.version = 1) :
    c.fault? = if c.acl.any (·.1 = "") then some .emptyConsumer else c.server.fault? := by
  unfold fault?
  rw [if_neg (not_not.2 h)]

theorem fault?_eq_none_iff {c : Config} (h : c.version = 1) : c.fault? = none ↔ c.InBounds := by
  rw [fault?_of_version h, ite_eq_iff]
  simp only [reduceCtorEq, and_false, false_or, ServerConfig.fault?_eq_none_iff, List.any_eq_true, decide_eq_true_eq,
    not_exists, not_and]
  exact ⟨fun h => ⟨h.1, h.2⟩, fun h => ⟨h.consumers, h.server⟩⟩

/-- Only the version is refused as a version. -/
theorem fault?_eq_version_iff {c : Config} : c.fault? = some .version ↔ c.version ≠ 1 := by
  constructor
  · intro h hversion
    rw [fault?_of_version hversion, ite_eq_iff] at h
    simp [ServerConfig.fault?_ne_version] at h
  · intro h
    exact if_pos h

/-- **What a validation says.** -/
theorem validate_cases (c : Config) :
    (c.validate = .ok () ∧ c.version = 1 ∧ c.InBounds)
      ∨ ∃ fault : ConfigFault, c.validate = .error fault.failure
          ∧ (fault.failure.code = .unsupportedVersion ∧ c.version ≠ 1
            ∨ fault.failure.code = .badRequest ∧ c.version = 1 ∧ ¬c.InBounds) := by
  unfold validate
  cases hfault : c.fault? with
  | none =>
    have hversion : c.version = 1 := Decidable.byContradiction fun h => by
      rw [fault?_eq_version_iff.2 h] at hfault
      cases hfault
    exact .inl ⟨rfl, hversion, (fault?_eq_none_iff hversion).1 hfault⟩
  | some fault =>
    have hcode := fault.code_failure
    refine .inr ⟨fault, rfl, ?_⟩
    by_cases hversion : c.version = 1
    · have hne : fault ≠ .version := by
        rintro rfl
        exact fault?_eq_version_iff.1 hfault hversion
      rw [if_neg hne] at hcode
      refine .inr ⟨hcode, hversion, fun h => ?_⟩
      rw [(fault?_eq_none_iff hversion).2 h] at hfault
      cases hfault
    · obtain rfl : ConfigFault.version = fault :=
        Option.some.inj ((fault?_eq_version_iff.2 hversion).symm.trans hfault)
      exact .inl ⟨hcode, hversion⟩

theorem validate_eq_ok_iff {c : Config} : c.validate = .ok () ↔ c.version = 1 ∧ c.InBounds := by
  rcases c.validate_cases with ⟨hok, h⟩ | ⟨fault, herror, ⟨-, hversion⟩ | ⟨-, -, hbounds⟩⟩
  · exact iff_of_true hok h
  · rw [herror]
    exact iff_of_false nofun fun h => hversion h.1
  · rw [herror]
    exact iff_of_false nofun fun h => hbounds h.2

/-- The configuration that a text holds, sound or not. -/
def held? (text : String) : Option Config := (Yaml.Document.ofText? text).bind (·.read? ofNode)

/-- A configuration is loaded where the text holds it and it is within its bounds. -/
theorem ofYaml_eq_ok_iff {text : String} {c : Config} :
    ofYaml text = .ok c ↔ held? text = some c ∧ c.version = 1 ∧ c.InBounds := by
  unfold ofYaml held?
  rw [← validate_eq_ok_iff]
  cases (Yaml.Document.ofText? text).bind (·.read? ofNode) with
  | none => simp
  | some c' =>
    constructor
    · intro h
      obtain ⟨_, hvalid, hc⟩ := Outcome.bind_eq_ok_iff.1 h
      cases hc
      exact ⟨rfl, hvalid⟩
    · rintro ⟨hc, hvalid⟩
      cases hc
      exact Outcome.bind_eq_ok_iff.2 ⟨(), hvalid, rfl⟩

end Config

end CallGateway

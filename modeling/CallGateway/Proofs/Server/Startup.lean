/-
  CallGateway.Proofs.Server.Startup
  ─────────────────────────────────
  **WHICH CONFIGURATIONS START, AND HOW THE OTHERS ARE REFUSED.**

  What a start asks of a configuration is checked in several places: the version,
  the consumers and the numbers when it is validated (`Config.validate_cases`),
  the patterns when the table is compiled (`AccessPolicy.compile_cases`), and the
  address when it is taken.  Together they are the conditions of `Startable`, and
  the first that fails decides the code of the refusal (`start_cases`).  None of
  them asks in which order the table is gone through.

  A configuration that was loaded has been validated.  So the feeds, which make
  no queue without any room, make theirs as large as it says (`Hub.start_of_inBounds`).
-/
import CallGateway.Proofs.Config
import CallGateway.Proofs.Policy.Access
import CallGateway.Server

namespace CallGateway

/-! ## §1. Patterns. -/

/-- Every pattern of a table is one. -/
def AccessTable.IsSound (table : AccessTable) : Prop :=
  ∀ entry ∈ table, ∀ raw ∈ entry.2, ∃ p, Pattern.compile raw = .ok p

namespace AccessPolicy

/-- An entry that cannot be compiled is told as a bad request of its consumer. -/
theorem exists_of_compileEntry_eq_error {entry : String × List String} {e : Failure}
    (h : compileEntry entry = .error e) :
    ∃ why, e = .badRequest ("acl compile failed (consumer=" ++ entry.1 ++ "): " ++ why) := by
  unfold compileEntry at h
  split at h
  · cases h
  · cases h
    exact ⟨_, rfl⟩

/-- **What a compilation says.** -/
theorem compile_cases (table : AccessTable) :
    (∃ p, compile table = .ok p ∧ table.IsSound)
      ∨ ∃ consumer why, compile table
        = .error (.badRequest ("acl compile failed (consumer=" ++ consumer ++ "): " ++ why))
          ∧ ¬table.IsSound := by
  have hsound : (∃ p, compile table = .ok p) ↔ table.IsSound := by
    rw [exists_compile_iff]
    simp only [AccessTable.IsSound, Pattern.exists_compile_iff]
  cases hcompile : compile table with
  | ok p => exact .inl ⟨p, rfl, hsound.1 ⟨p, hcompile⟩⟩
  | error e =>
    have hunsound : ¬table.IsSound := by
      intro h
      obtain ⟨p, hp⟩ := hsound.2 h
      cases hcompile.symm.trans hp
    unfold compile at hcompile
    obtain hrules | ⟨rules, -, ⟨⟩⟩ := Outcome.bind_eq_error_iff.1 hcompile
    obtain ⟨entry, -, hentry⟩ := Outcome.exists_of_mapM_eq_error hrules
    obtain ⟨why, rfl⟩ := exists_of_compileEntry_eq_error hentry
    exact .inr ⟨entry.1, why, rfl, hunsound⟩

end AccessPolicy

/-! ## §2. Sizes. -/

/-- The feeds make their queues as large as they are told, if that is not zero. -/
theorem Hub.start_of_inBounds {s : ServerConfig} (h : s.InBounds) :
    start s.eventBuffer s.subscriberBuffer
      = { log := { intake := { capacity := s.eventBuffer }, subscriberBuffer := s.subscriberBuffer }
          stats := { subscriberBuffer := s.subscriberBuffer } } := by
  unfold start LogFeed.start StatsFeed.start
  rw [Nat.max_eq_left h.eventBuffer.1, Nat.max_eq_left h.subscriberBuffer.1]

/-! ## §3. Starting. -/

namespace Server

variable {c : Config} {bind : SocketAddress → Option SocketAddress}

/-- The address that a text names can be taken. -/
def Takes (bind : SocketAddress → Option SocketAddress) (listen : String) : Prop :=
  ∃ asked taken, SocketAddress.parse? listen = some asked ∧ bind asked = some taken

/-- All that a start asks for. -/
structure Startable (c : Config) (bind : SocketAddress → Option SocketAddress) : Prop where
  version : c.version = 1
  inBounds : c.InBounds
  patterns : c.acl.IsSound
  address : Takes bind c.server.listen

/-- The code of a refusal: a wrong version counts before anything else, and the
address last. -/
inductive Refused (c : Config) (bind : SocketAddress → Option SocketAddress) : Code → Prop where
  | version (h : c.version ≠ 1) : Refused c bind .unsupportedVersion
  | outOfBounds (hversion : c.version = 1) (h : ¬c.InBounds) : Refused c bind .badRequest
  | pattern (hversion : c.version = 1) (h : ¬c.acl.IsSound) : Refused c bind .badRequest
  | address (hversion : c.version = 1) (hbounds : c.InBounds) (hpatterns : c.acl.IsSound)
      (h : ¬Takes bind c.server.listen) : Refused c bind .internal

/-- What can be started is not refused. -/
theorem Startable.not_refused (h : Startable c bind) (code : Code) : ¬Refused c bind code := by
  intro hrefused
  cases hrefused with
  | version hversion => exact hversion h.version
  | outOfBounds _ hbounds => exact hbounds h.inBounds
  | pattern _ hpatterns => exact hpatterns h.patterns
  | address _ _ _ haddress => exact haddress h.address

/-- There is one code for a refusal. -/
theorem Refused.unique {code code' : Code} (h : Refused c bind code) (h' : Refused c bind code') : code = code' := by
  -- each case denies what the later ones ask for
  cases h <;> cases h' <;> trivial

/-! The order of the table does not matter to any of this. -/

section
variable {acl : AccessTable} (hperm : acl.Perm c.acl)
include hperm

theorem inBounds_perm : { c with acl }.InBounds ↔ c.InBounds :=
  ⟨fun h => ⟨fun entry hentry => h.consumers entry (hperm.mem_iff.2 hentry), h.server⟩,
    fun h => ⟨fun entry hentry => h.consumers entry (hperm.mem_iff.1 hentry), h.server⟩⟩

theorem isSound_perm : acl.IsSound ↔ c.acl.IsSound := forall_congr' fun _ => imp_congr_left hperm.mem_iff

theorem Startable.perm (h : Startable c bind) : Startable { c with acl } bind :=
  ⟨h.version, (inBounds_perm hperm).2 h.inBounds, (isSound_perm hperm).2 h.patterns, h.address⟩

theorem Refused.perm {code : Code} (h : Refused c bind code) : Refused { c with acl } bind code := by
  cases h with
  | version hversion => exact .version hversion
  | outOfBounds hversion hbounds => exact .outOfBounds hversion (mt (inBounds_perm hperm).1 hbounds)
  | pattern hversion hpatterns => exact .pattern hversion (mt (isSound_perm hperm).1 hpatterns)
  | address hversion hbounds hpatterns haddress =>
    exact .address hversion ((inBounds_perm hperm).2 hbounds) ((isSound_perm hperm).2 hpatterns) haddress

end

/-- **A start is refused for the first thing that is wrong**, and never because
what was an address when it was validated is none any more. -/
theorem start_cases (c : Config) (bind : SocketAddress → Option SocketAddress) :
    (∃ s, start c bind = .ok s ∧ Startable c bind)
      ∨ ∃ e, start c bind = .error e ∧ Refused c bind e.code
          ∧ e ≠ .badRequest "server.listen is not a SocketAddr" := by
  rcases c.validate_cases with ⟨hvalid, hversion, hbounds⟩ | ⟨fault, hfault, hcode⟩
  · obtain ⟨listen, hlisten⟩ := hbounds.server.listen
    rcases AccessPolicy.compile_cases c.acl with ⟨p, hcompile, hpatterns⟩ | ⟨consumer, why, hcompile, hpatterns⟩
    · obtain ⟨gateway, hgateway⟩ : ∃ gateway, Gateway.start c = .ok gateway := by
        rw [Gateway.start, hcompile]
        exact ⟨_, rfl⟩
      cases hbind : bind listen with
      | some address =>
        have hstart : start c bind = .ok { gateway, address, lifecycle := .start c.server.drainTimeoutMs } := by
          simp only [start, hvalid, hlisten, hgateway, hbind]
          rfl
        exact .inl ⟨_, hstart, hversion, hbounds, hpatterns, listen, address, hlisten, hbind⟩
      | none =>
        have hstart : start c bind = .error (.internal "bind failed") := by
          simp only [start, hvalid, hlisten, hgateway, hbind]
          rfl
        have haddress : ¬Takes bind c.server.listen := by
          rintro ⟨asked, taken, hasked, htaken⟩
          cases hlisten.symm.trans hasked
          cases hbind.symm.trans htaken
        exact .inr ⟨_, hstart, .address hversion hbounds hpatterns haddress, nofun⟩
    · have hstart : start c bind
          = .error (.badRequest ("acl compile failed (consumer=" ++ consumer ++ "): " ++ why)) := by
        simp only [start, Gateway.start, hvalid, hlisten, hcompile]
        rfl
      refine .inr ⟨_, hstart, .pattern hversion hpatterns, fun h => ?_⟩
      have hlist := congrArg String.toList (Failure.badRequest.inj h)
      simp at hlist
  · have hstart : start c bind = .error fault.failure := by
      rw [start, hfault]
      rfl
    refine .inr ⟨_, hstart, ?_, fault.failure_ne⟩
    rcases hcode with ⟨hcode, hversion⟩ | ⟨hcode, hversion, hbounds⟩
    · exact hcode ▸ .version hversion
    · exact hcode ▸ .outOfBounds hversion hbounds

theorem exists_start_iff : (∃ s, start c bind = .ok s) ↔ Startable c bind := by
  rcases start_cases c bind with ⟨s, hstart, h⟩ | ⟨e, hstart, hrefused, -⟩
  · exact iff_of_true ⟨s, hstart⟩ h
  · refine iff_of_false ?_ fun h => h.not_refused _ hrefused
    rintro ⟨s, hok⟩
    cases hstart.symm.trans hok

theorem exists_refusal_iff {code : Code} : (∃ e, start c bind = .error e ∧ e.code = code) ↔ Refused c bind code := by
  rcases start_cases c bind with ⟨s, hstart, h⟩ | ⟨e, hstart, hrefused, -⟩
  · refine iff_of_false ?_ (h.not_refused code)
    rintro ⟨e, herror, -⟩
    cases hstart.symm.trans herror
  · constructor
    · rintro ⟨e', herror, rfl⟩
      obtain rfl := Except.error.inj (hstart.symm.trans herror)
      exact hrefused
    · intro hcode
      exact ⟨e, hstart, hrefused.unique hcode⟩

/-- **A configuration starts just where nothing is wrong with it, and what is
wrong first gives the code of the refusal.**  A version that the gateway does not
read counts before anything else, then come the bounds and the patterns, and last
the address.  The order of the access table changes neither verdict nor code; what
has been validated names an address, so that no start is refused for that later.
Whatever a text was loaded as has the right version and is within its bounds, and
the queues of its feeds are as large as it says. -/
theorem starts_iff_startable (c : Config) (bind : SocketAddress → Option SocketAddress) :
    ((∃ s, start c bind = .ok s) ↔ Startable c bind)
      ∧ (∀ code, (∃ e, start c bind = .error e ∧ e.code = code) ↔ Refused c bind code)
      ∧ (∀ acl : AccessTable, acl.Perm c.acl →
          ((∃ s, start { c with acl } bind = .ok s) ↔ ∃ s, start c bind = .ok s)
            ∧ ∀ code, (∃ e, start { c with acl } bind = .error e ∧ e.code = code)
                ↔ ∃ e, start c bind = .error e ∧ e.code = code)
      ∧ (c.validate = .ok () → ∃ listen, SocketAddress.parse? c.server.listen = some listen)
      ∧ start c bind ≠ .error (.badRequest "server.listen is not a SocketAddr")
      ∧ ∀ text, Config.ofYaml text = .ok c →
          c.version = 1 ∧ c.InBounds
            ∧ ∀ g, Gateway.start c = .ok g →
                g.hub.log.intake.capacity = c.server.eventBuffer
                  ∧ g.hub.log.subscriberBuffer = c.server.subscriberBuffer
                  ∧ g.hub.stats.subscriberBuffer = c.server.subscriberBuffer := by
  refine ⟨exists_start_iff, fun code => exists_refusal_iff, fun acl hperm => ?_, fun hvalid => ?_, ?_, ?_⟩
  · simp only [exists_start_iff, exists_refusal_iff]
    exact ⟨⟨.perm hperm.symm, .perm hperm⟩, fun code => ⟨.perm hperm.symm, .perm hperm⟩⟩
  · exact (Config.validate_eq_ok_iff.1 hvalid).2.server.listen
  · intro h
    rcases start_cases c bind with ⟨s, hstart, -⟩ | ⟨e, hstart, -, hne⟩
    · cases hstart.symm.trans h
    · exact hne (Except.error.inj (hstart.symm.trans h))
  · intro text hload
    obtain ⟨-, hversion, hbounds⟩ := Config.ofYaml_eq_ok_iff.1 hload
    refine ⟨hversion, hbounds, fun g hg => ?_⟩
    obtain ⟨p, -, ⟨⟩⟩ := Outcome.bind_eq_ok_iff.1 hg
    rw [Hub.start_of_inBounds hbounds.server]
    exact ⟨rfl, rfl, rfl⟩

/-- Two consumers, an address that is taken already, and the smallest queue for
dispatch; and then a version that is not read, with more that is wrong. -/
theorem taken_address_refuses_loaded :
    ∃ c g, Config.ofYaml "version: 1\nserver:\n  event_buffer: 1\nacl:\n  bob: []\n  amy: [/é/*]" = .ok c
      ∧ Gateway.start c = .ok g ∧ g.hub.log.intake.capacity = 1
      ∧ c.validate = .ok () ∧ (∃ listen, SocketAddress.parse? c.server.listen = some listen)
      ∧ c.acl.reverse.Perm c.acl ∧ c.acl.reverse ≠ c.acl
      ∧ (∃ e, start { c with acl := c.acl.reverse } (fun _ => none) = .error e ∧ e.code = .internal)
      ∧ ∃ e, start { c with version := 2, acl := ("", ["/"]) :: c.acl } some = .error e
          ∧ e.code = .unsupportedVersion := by
  let c : Config := { version := 1, server := { eventBuffer := 1 }, acl := [("amy", ["/é/*"]), ("bob", [])] }
  have hvalid : c.validate = .ok () := by decide +kernel
  have hload : Config.ofYaml "version: 1\nserver:\n  event_buffer: 1\nacl:\n  bob: []\n  amy: [/é/*]" = .ok c :=
    Config.ofYaml_eq_ok_iff.2 ⟨by decide +kernel, Config.validate_eq_ok_iff.1 hvalid⟩
  obtain ⟨g, hg⟩ : ∃ g, Gateway.start c = .ok g := ⟨_, rfl⟩
  obtain ⟨-, hcode, hperm, hlisten, -, hloaded⟩ := starts_iff_startable c fun _ => none
  obtain ⟨hversion, hbounds, hsizes⟩ := hloaded _ hload
  have hreverse : c.acl.reverse.Perm c.acl := List.reverse_perm c.acl
  have hpatterns : c.acl.IsSound := by
    intro entry hentry raw hraw
    simp only [c, List.mem_cons, List.not_mem_nil, or_false] at hentry
    rcases hentry with rfl | rfl
    · obtain rfl := List.mem_singleton.1 hraw
      exact Pattern.exists_compile_iff.2 ⟨"é", "*", ⟨by decide, by decide⟩, ⟨by decide, by decide⟩, rfl⟩
    · cases hraw
  have haddress : ¬Takes (fun _ => none) c.server.listen := by
    rintro ⟨asked, taken, -, htaken⟩
    cases htaken
  have hrefused : Refused c (fun _ => none) .internal := .address hversion hbounds hpatterns haddress
  refine ⟨c, g, hload, hg, (hsizes g hg).1, hvalid, hlisten hvalid, hreverse, by decide, ?_, ?_⟩
  · exact ((hperm _ hreverse).2 .internal).2 ((hcode .internal).2 hrefused)
  · exact ((starts_iff_startable _ some).2.1 .unsupportedVersion).2 (.version (by decide))

end Server

end CallGateway

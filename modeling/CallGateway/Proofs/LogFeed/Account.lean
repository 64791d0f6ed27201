/-
  CallGateway.Proofs.LogFeed.Account
  ──────────────────────────────────
  **A SUBSCRIBER'S ACCOUNT AND ITS QUEUE AGREE.**

  `Agrees` ties the account of a subscriber to all the records that were
  handed out and to the subscriber's queue: what it has received, followed
  by what is queued, are the records of its period that found room.  The
  lemmas go through what can happen to a subscriber.
-/
import CallGateway.Proofs.LogFeed.Journal
import Mathlib.Data.List.Basic
import Mathlib.Data.List.Induction

namespace CallGateway.LogFeed

namespace Account

/-- The account of a subscriber with this queue, after these records. -/
structure Agrees (a : Account) (dispatched : List CallRecord) (q : Queue CallRecord) : Prop where
  since_le : a.since ≤ dispatched.length
  upTo_le : ∀ n, a.upTo = some n → n ≤ dispatched.length
  share_eq : a.share.map (·.1) = a.period dispatched
  kept_eq : a.received ++ a.left.getD q.items = a.kept
  listening : a.left = none → q.reader = .listening
  gone : ∀ items, a.left = some items → q.reader = .gone
  stays : a.upTo = none → a.left = none

variable {a : Account} {dispatched : List CallRecord} {q : Queue CallRecord}

/-! ## §1. What can happen to a subscriber. -/

theorem agrees_start (dispatched : List CallRecord) (capacity : Nat) :
    ({ since := dispatched.length } : Account).Agrees dispatched { capacity := capacity } where
  since_le := Nat.le_refl _
  upTo_le := by simp
  share_eq := by simp [period]
  kept_eq := rfl
  listening := fun _ => rfl
  gone := by simp
  stays := fun _ => rfl

theorem period_append_of_upTo {n : Nat} (hupTo : a.upTo = some n) (hn : n ≤ dispatched.length)
    (r : CallRecord) : a.period (dispatched ++ [r]) = a.period dispatched := by
  unfold period
  rw [hupTo]
  show ((dispatched ++ [r]).take n).drop a.since = (dispatched.take n).drop a.since
  rw [List.take_append_of_le_length hn]

theorem period_append_of_registered (hupTo : a.upTo = none) (hsince : a.since ≤ dispatched.length)
    (r : CallRecord) : a.period (dispatched ++ [r]) = a.period dispatched ++ [r] := by
  unfold period
  rw [hupTo]
  show ((dispatched ++ [r]).take (dispatched ++ [r]).length).drop a.since
    = (dispatched.take dispatched.length).drop a.since ++ [r]
  rw [List.take_length, List.take_length, List.drop_append_of_le_length hsince]

/-- A record is handed out when the subscriber has been struck off. -/
theorem Agrees.passed (h : a.Agrees dispatched q) {n : Nat} (hupTo : a.upTo = some n) (r : CallRecord) :
    a.Agrees (dispatched ++ [r]) q := by
  have hlength : dispatched.length ≤ (dispatched ++ [r]).length := by simp
  refine ⟨Nat.le_trans h.since_le hlength, fun n hn => Nat.le_trans (h.upTo_le n hn) hlength, ?_, h.kept_eq,
    h.listening, h.gone, h.stays⟩
  rw [period_append_of_upTo hupTo (h.upTo_le n hupTo)]
  exact h.share_eq

/-- A record is handed out while the subscriber is registered: it is queued
if there is room. -/
theorem Agrees.offered (h : a.Agrees dispatched q) (hupTo : a.upTo = none) (r : CallRecord) :
    ({ a with share := a.share ++ [(r, decide (q.capacity ≤ q.items.length))] } : Account).Agrees
      (dispatched ++ [r]) (q.offer r) := by
  have hlength : dispatched.length ≤ (dispatched ++ [r]).length := by simp
  have hleft := h.stays hupTo
  have hreader := h.listening hleft
  have hkept : a.received ++ q.items = a.kept := by
    have hkept := h.kept_eq
    rwa [hleft] at hkept
  refine ⟨Nat.le_trans h.since_le hlength, ?_, ?_, ?_, ?_, ?_, h.stays⟩
  · intro n hn
    exact absurd (hupTo.symm.trans hn) (by simp)
  · have hperiod := period_append_of_registered hupTo h.since_le r
    rw [← h.share_eq] at hperiod
    refine Eq.trans ?_ hperiod.symm
    simp
  · show a.received ++ a.left.getD (q.offer r).items = _
    rw [hleft]
    by_cases hfull : q.capacity ≤ q.items.length
    · have hverdict : q.verdict ≠ .delivered := by simp [Queue.verdict_of_listening hreader, hfull]
      rw [Queue.offer_of_ne r hverdict]
      simpa [hfull, kept] using hkept
    · have hverdict : q.verdict = .delivered := by simp [Queue.verdict, hreader, hfull]
      rw [Queue.offer_of_delivered r hverdict]
      show a.received ++ (q.items ++ [r]) = _
      rw [← List.append_assoc, hkept]
      simp [hfull, kept]
  · intro _
    unfold Queue.offer
    split
    · exact hreader
    · exact hreader
  · intro items hitems
    exact absurd (hleft.symm.trans hitems) (by simp)

/-- The oldest record of the queue is received. -/
theorem Agrees.receive {r : CallRecord} {rest : List CallRecord} (h : a.Agrees dispatched q)
    (hitems : q.items = r :: rest) (hreader : q.reader ≠ .gone) :
    (a.receive r).Agrees dispatched { q with items := rest } := by
  have hnone : a.left = none := by
    cases hleft : a.left with
    | none => rfl
    | some items => exact absurd (h.gone items hleft) hreader
  refine ⟨h.since_le, h.upTo_le, h.share_eq, ?_, h.listening, h.gone, h.stays⟩
  have hkept := h.kept_eq
  rw [hnone, hitems] at hkept
  show (a.received ++ [r]) ++ a.left.getD rest = a.kept
  rw [hnone, List.append_assoc]
  exact hkept

theorem registered_close (a : Account) (n : Nat) : (a.close n).registered = false := by
  unfold registered close
  cases a.upTo with
  | none => rfl
  | some u => rfl

theorem upTo_ne_none (h : a.registered = false) : a.upTo ≠ none := by
  intro hnone
  rw [registered, hnone] at h
  cases h

/-- The subscriber is struck off: the records that come later are none of
its own. -/
theorem Agrees.close (h : a.Agrees dispatched q) : (a.close dispatched.length).Agrees dispatched q := by
  have hperiod : (a.close dispatched.length).period dispatched = a.period dispatched := by
    unfold period Account.close
    cases a.upTo with
    | none => rfl
    | some n => rfl
  refine ⟨h.since_le, ?_, h.share_eq.trans hperiod.symm, h.kept_eq, h.listening, h.gone, ?_⟩
  · intro n hn
    unfold Account.close at hn
    cases hupTo : a.upTo with
    | none =>
      rw [hupTo] at hn
      obtain rfl := Option.some.inj hn
      exact Nat.le_refl _
    | some u =>
      rw [hupTo] at hn
      obtain rfl := Option.some.inj hn
      exact h.upTo_le u hupTo
  · intro hnone
    exact absurd hnone (upTo_ne_none (registered_close a _))

/-- A subscriber that was struck off goes, and its queue with it. -/
theorem Agrees.drop (h : a.Agrees dispatched q) (hupTo : a.upTo ≠ none) :
    (a.leave (a.left.getD q.items)).Agrees dispatched q.drop := by
  refine ⟨h.since_le, h.upTo_le, h.share_eq, ?_, ?_, fun _ _ => rfl, fun hnone => absurd hnone hupTo⟩
  · show a.received ++ (a.left.or (some (a.left.getD q.items))).getD [] = a.kept
    rw [← h.kept_eq]
    cases a.left with
    | none => rfl
    | some items => rfl
  · intro hleft
    unfold leave at hleft
    cases ha : a.left with
    | none => simp [ha] at hleft
    | some items => simp [ha] at hleft

/-! ## §2. What the account says. -/

theorem kept_sublist (a : Account) : a.kept.Sublist (a.share.map (·.1)) :=
  List.filter_sublist.map _

/-- With nothing missed, everything was kept. -/
theorem kept_of_missed_nil (h : a.missed = []) : a.kept = a.share.map (·.1) := by
  unfold kept
  rw [List.filter_eq_self.2]
  intro x hx
  have hnot := List.filter_eq_nil_iff.1 (List.map_eq_nil_iff.1 h) x hx
  simpa using hnot

end Account

/-! ## §3. All accounts together. -/

/-- A subscriber is at this place and has not been struck off. -/
def registeredAt (accounts : List Account) (k : Nat) : Bool := (accounts[k]?).any (·.registered)

/-- How many records were missed by all subscribers together. -/
def missedBy (accounts : List Account) : Nat := (accounts.flatMap (·.missed)).length

theorem missedBy_concat (accounts : List Account) (a : Account) :
    missedBy (accounts ++ [a]) = missedBy accounts + a.missed.length := by
  simp [missedBy]

/-- A record that is handed out is missed once more by every registered
subscriber whose queue is full, and by no other. -/
theorem missedBy_offered (accounts : List Account) (r : CallRecord) (full : Nat → Bool) :
    missedBy (accounts.mapIdx fun k => Account.offered r (full k))
      = missedBy accounts
        + ((List.range accounts.length).filter fun k => registeredAt accounts k && full k).length := by
  induction accounts using List.reverseRecOn with
  | nil => rfl
  | append_singleton accounts a ih =>
    -- the accounts before the last one are not changed by it
    have hbefore : (List.range accounts.length).filter (fun k => registeredAt (accounts ++ [a]) k && full k)
        = (List.range accounts.length).filter fun k => registeredAt accounts k && full k := by
      refine List.filter_congr fun k hk => ?_
      unfold registeredAt
      rw [List.getElem?_append_left (List.mem_range.1 hk)]
    have hlast : registeredAt (accounts ++ [a]) accounts.length = a.registered := by
      simp [registeredAt]
    have ha : (a.offered r (full accounts.length)).missed.length
        = a.missed.length + ([accounts.length].filter fun k => registeredAt (accounts ++ [a]) k && full k).length := by
      unfold Account.offered
      rw [List.filter_singleton, hlast]
      cases a.registered with
      | false => rfl
      | true => cases full accounts.length <;> simp [Account.missed]
    rw [List.mapIdx_concat, missedBy_concat, missedBy_concat, ih, List.length_append, List.length_singleton,
      List.range_succ, List.filter_append, List.length_append, hbefore, ha]
    omega

/-- Nothing is missed by a change to one account that leaves its misses
alone. -/
theorem missedBy_modify (accounts : List Account) (s : Nat) {f : Account → Account}
    (hf : ∀ a, (f a).missed = a.missed) : missedBy (accounts.modify s f) = missedBy accounts := by
  have hmap : (accounts.modify s f).map (·.missed) = accounts.map (·.missed) := by
    refine List.ext_getElem? fun k => ?_
    rw [List.getElem?_map, List.getElem?_map, List.getElem?_modify]
    by_cases hk : s = k
    · cases accounts[k]? with
      | none => rfl
      | some a => simp [hk, hf]
    · simp [hk]
  unfold missedBy
  rw [List.flatMap_def, List.flatMap_def, hmap]

theorem missedBy_close (accounts : List Account) (n : Nat) :
    missedBy (accounts.map (Account.close n)) = missedBy accounts := by
  unfold missedBy
  rw [List.flatMap_map]
  rfl

/-! ## §4. Who is registered. -/

theorem registeredAt_modify (accounts : List Account) (s k : Nat) (f : Account → Account) :
    registeredAt (accounts.modify s f) k
      = if s = k then (accounts[k]?).any (fun a => (f a).registered) else registeredAt accounts k := by
  unfold registeredAt
  rw [List.getElem?_modify]
  by_cases hk : s = k
  · cases accounts[k]? with
    | none => simp
    | some a => simp [hk]
  · simp [hk]

/-- After the shutdown nobody is registered. -/
theorem registeredAt_close (accounts : List Account) (n k : Nat) :
    registeredAt (accounts.map (Account.close n)) k = false := by
  unfold registeredAt
  rw [List.getElem?_map]
  cases accounts[k]? with
  | none => rfl
  | some a => exact a.registered_close n

/-- Handing out a record changes nothing about who is registered. -/
theorem registeredAt_offered (accounts : List Account) (r : CallRecord) (full : Nat → Bool) (k : Nat) :
    registeredAt (accounts.mapIdx fun k => Account.offered r (full k)) k = registeredAt accounts k := by
  unfold registeredAt
  rw [List.getElem?_mapIdx]
  cases accounts[k]? with
  | none => rfl
  | some a =>
    show (a.offered r (full k)).registered = a.registered
    unfold Account.offered
    split
    · rfl
    · rfl

end CallGateway.LogFeed

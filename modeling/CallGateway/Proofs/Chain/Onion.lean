/-
  CallGateway.Proofs.Chain.Onion
  ──────────────────────────────
  **INTERCEPTORS STAND AROUND A SERVICE LIKE THE SKINS OF AN ONION.**

  A `Skin` is an interceptor that goes on once or answers by itself, and does
  what it likes besides, before and after, with a state that is shared by all.
  Skins can be made to note what they do, which changes nothing else
  (`exists_onion`).  The notes of a run have the form of an onion (`Onion`),
  and from that form it can be read in which order the skins are entered and
  left and what each of them gets and sees (`Onion.layered`), that nothing is
  reached behind a policy that denies the call (`Onion.guarded`), and that
  unary and streaming calls go the same way in (`Onion.alike`).  The chain of
  a gateway is made of skins (`Gateway.chain_skins`).
-/
import CallGateway.Gateway
import CallGateway.Proofs.Chain
import Mathlib.Data.List.Forall2

namespace CallGateway

open Json (Value)

namespace Chain

/-! ## §1. Skins. -/

/-- What an interceptor decides on the way in. -/
inductive Move (σ α : Type) where
  -- Go on with this call and request, and do this with the result.
  | onward (call : Call) (req : Value) (after : Outcome α → StateM σ (Outcome α))
  | answer (r : Outcome α)

/-- An interceptor that goes on once or not at all: what it does on the way
in. -/
structure Skin (σ α : Type) where
  move : Call → Value → StateM σ (Move σ α)

/-- What happens while a call is answered. -/
inductive Note (α : Type) where
  -- The skin at a place is entered with a call and a request.
  | entered (place : Nat) (call : Call) (req : Value)
  -- It goes on with these.
  | wentOn (place : Nat) (call : Call) (req : Value)
  -- It answers without going on.
  | answered (place : Nat) (r : Outcome α)
  -- The service is called, and answers.
  | served (call : Call) (req : Value) (r : Outcome α)
  -- The skin at a place has seen the result of the rest, and answers.
  | left (place : Nat) (seen r : Outcome α)

/-- Keeps a state, and notes. -/
abbrev Noting (σ α : Type) := StateT (List (Note α)) (StateM σ)

variable {σ α β : Type}

namespace Skin

/-- The interceptor that a skin is. -/
def interceptor (skin : Skin σ α) : Interceptor (StateM σ) α := fun call req next => do
  match ← skin.move call req with
  | .answer r => return r
  | .onward call' req' after => after (← next call' req')

/-- The skin at a place, which notes what it does. -/
def noting (place : Nat) (skin : Skin σ α) : Interceptor (Noting σ α) α := fun call req next => do
  modify (· ++ [.entered place call req])
  match ← skin.move call req with
  | .answer r =>
    modify (· ++ [.answered place r])
    return r
  | .onward call' req' after =>
    modify (· ++ [.wentOn place call' req'])
    let seen ← next call' req'
    let r ← after seen
    modify (· ++ [.left place seen r])
    return r

/-- A link as a skin. -/
def ofLink (l : Link (StateM σ) α) : Skin σ α where
  move call req := do
    match ← l.enter call req with
    | .answer r => return .answer r
    | .onward call' req' => return .onward call' req' fun r => do
        l.leave call r
        return r

/-- A link does what its skin does. -/
theorem interceptor_ofLink (l : Link (StateM σ) α) : (ofLink l).interceptor = l.interceptor := by
  funext call req next
  unfold interceptor ofLink Link.interceptor
  simp only [bind_assoc]
  refine bind_congr fun passage => ?_
  cases passage with
  | answer r => simp only [pure_bind]
  | onward call' req' => simp only [pure_bind]

/-- The skin of an access policy that counts its verdicts in the state. -/
def access (p : AccessPolicy) (metricsOf : σ → Metrics) (withMetrics : σ → Metrics → σ) : Skin σ α :=
  ofLink (p.link fun judge => modifyGet fun st =>
    ((judge (metricsOf st)).1, withMetrics st (judge (metricsOf st)).2))

/-- The skin that goes on in the name of another consumer. -/
def inNameOf (consumer : String) : Skin σ α where
  move call req := return .onward { call with consumer } req fun r => do return r

end Skin

/-- Skins that note what they do, the first of them at this place. -/
def notingFrom : Nat → List (Skin σ α) → List (Interceptor (Noting σ α) α)
  | _, [] => []
  | place, skin :: rest => skin.noting place :: notingFrom (place + 1) rest

/-- A service that notes that it was called. -/
def notingService (service : Answering (StateM σ) α) : Answering (Noting σ α) α := fun call req => do
  let r ← service call req
  modify (· ++ [.served call req r])
  return r

/-- Answer a unary call, and note what happens. -/
def watchUnary (us : List (Skin σ Value)) (service : Answering (StateM σ) Value) (call : Call) (req : Value) (st : σ) :
    (Outcome Value × List (Note Value)) × σ :=
  let c : Chain (Noting σ Value) Value := { unary := notingFrom 0 us }
  ((c.runUnary (notingService service) call req).run []).run st

/-- Answer a streaming call, and note what happens. -/
def watchStream (ss : List (Skin σ β)) (service : Answering (StateM σ) β) (call : Call) (req : Value) (st : σ) :
    (Outcome β × List (Note β)) × σ :=
  let c : Chain (Noting σ β) β := { stream := notingFrom 0 ss }
  ((c.runStream (notingService service) call req).run []).run st

/-! ## §2. Onions. -/

/-- The notes of a call that is answered by skins around a service, the first
of them at this place.  The service is the core.  A skin that stops the call
is the innermost one, and one that goes on stands around all the rest. -/
inductive Onion (service : Answering (StateM σ) α) :
    Nat → List (Skin σ α) → Call → Value → σ → List (Note α) → Outcome α → σ → Prop where
  | core {place : Nat} {call : Call} {req : Value} {st st' : σ} {r : Outcome α} :
      (service call req).run st = (r, st') →
      Onion service place [] call req st [.served call req r] r st'
  | stops {place : Nat} {skin : Skin σ α} {rest : List (Skin σ α)} {call : Call} {req : Value} {st st' : σ}
      {r : Outcome α} :
      (skin.move call req).run st = (.answer r, st') →
      Onion service place (skin :: rest) call req st [.entered place call req, .answered place r] r st'
  | goesOn {place : Nat} {skin : Skin σ α} {rest : List (Skin σ α)} {call call' : Call} {req req' : Value}
      {st st₁ st₂ st' : σ} {notes : List (Note α)} {after : Outcome α → StateM σ (Outcome α)} {seen r : Outcome α} :
      (skin.move call req).run st = (.onward call' req' after, st₁) →
      Onion service (place + 1) rest call' req' st₁ notes seen st₂ →
      (after seen).run st₂ = (r, st') →
      Onion service place (skin :: rest) call req st
        (.entered place call req :: .wentOn place call' req' :: (notes ++ [.left place seen r])) r st'

/-! Notes are kept beside the state: -/

namespace Noting

theorem run_bind {γ δ : Type} (x : Noting σ α γ) (f : γ → Noting σ α δ) (notes : List (Note α)) (st : σ) :
    ((x >>= f).run notes).run st
      = ((f ((x.run notes).run st).1.1).run ((x.run notes).run st).1.2).run ((x.run notes).run st).2 := rfl

theorem run_pure {γ : Type} (a : γ) (notes : List (Note α)) (st : σ) :
    ((pure a : Noting σ α γ).run notes).run st = ((a, notes), st) := rfl

theorem run_note (note : Note α) (notes : List (Note α)) (st : σ) :
    ((modify (· ++ [note]) : Noting σ α PUnit).run notes).run st = ((⟨⟩, notes ++ [note]), st) := rfl

theorem run_lift {γ : Type} (x : StateM σ γ) (notes : List (Note α)) (st : σ) :
    ((liftM x : Noting σ α γ).run notes).run st = (((x.run st).1, notes), (x.run st).2) := rfl

end Noting

section Run
variable {skin : Skin σ α} {call call' : Call} {req req' : Value} {st st₁ : σ} {r : Outcome α}
  {after : Outcome α → StateM σ (Outcome α)}

/-! What a skin and its notes come to, in either case: -/

theorem Skin.run_of_answer (h : (skin.move call req).run st = (.answer r, st₁)) (next : Answering (StateM σ) α) :
    (skin.interceptor call req next).run st = (r, st₁) := by
  unfold interceptor
  rw [StateT.run_bind, h]
  rfl

theorem Skin.run_of_onward (h : (skin.move call req).run st = (.onward call' req' after, st₁))
    {next : Answering (StateM σ) α} {seen : Outcome α} {st₂ : σ} (hnext : (next call' req').run st₁ = (seen, st₂)) :
    (skin.interceptor call req next).run st = (after seen).run st₂ := by
  unfold interceptor
  rw [StateT.run_bind, h]
  show ((next call' req' >>= after).run st₁) = _
  rw [StateT.run_bind, hnext]
  rfl

theorem Skin.run_noting_of_answer (h : (skin.move call req).run st = (.answer r, st₁)) (place : Nat)
    (next : Answering (Noting σ α) α) (before : List (Note α)) :
    ((skin.noting place call req next).run before).run st
      = ((r, before ++ [.entered place call req, .answered place r]), st₁) := by
  unfold noting
  simp only [Noting.run_bind, Noting.run_note, Noting.run_lift, Noting.run_pure, h, List.append_assoc, List.cons_append,
    List.nil_append]

theorem Skin.run_noting_of_onward (h : (skin.move call req).run st = (.onward call' req' after, st₁)) (place : Nat)
    {next : Answering (Noting σ α) α} {notes : List (Note α)} {seen : Outcome α} {st₂ st₃ : σ}
    (hnext : ∀ before, ((next call' req').run before).run st₁ = ((seen, before ++ notes), st₂))
    (hafter : (after seen).run st₂ = (r, st₃)) (before : List (Note α)) :
    ((skin.noting place call req next).run before).run st
      = ((r, before ++ .entered place call req :: .wentOn place call' req' :: (notes ++ [.left place seen r])),
        st₃) := by
  unfold noting
  simp only [Noting.run_bind, Noting.run_note, Noting.run_lift, Noting.run_pure, h, hnext, hafter, List.append_assoc,
    List.cons_append, List.nil_append]

end Run

/-- **Every call makes an onion**, and noting it changes nothing. -/
theorem exists_onion (service : Answering (StateM σ) α) (skins : List (Skin σ α)) :
    ∀ (place : Nat) (call : Call) (req : Value) (st : σ), ∃ notes r st',
      Onion service place skins call req st notes r st'
      ∧ (around (skins.map Skin.interceptor) service call req).run st = (r, st')
      ∧ ∀ before, ((around (notingFrom place skins) (notingService service) call req).run before).run st
          = ((r, before ++ notes), st') := by
  induction skins with
  | nil =>
    intro place call req st
    rcases hservice : (service call req).run st with ⟨r, st'⟩
    refine ⟨_, r, st', .core hservice, hservice, fun before => ?_⟩
    show ((notingService service call req).run before).run st = _
    unfold notingService
    simp only [Noting.run_bind, Noting.run_note, Noting.run_lift, Noting.run_pure, hservice]
  | cons skin rest ih =>
    intro place call req st
    rcases hmove : (skin.move call req).run st with ⟨⟨call', req', after⟩ | r, st₁⟩
    · obtain ⟨notes, seen, st₂, honion, hplain, hnoting⟩ := ih (place + 1) call' req' st₁
      rcases hafter : (after seen).run st₂ with ⟨r, st'⟩
      refine ⟨_, r, st', .goesOn hmove honion hafter, ?_, ?_⟩
      · exact (Skin.run_of_onward hmove hplain).trans hafter
      · exact Skin.run_noting_of_onward hmove place hnoting hafter
    · exact ⟨_, r, st₁, .stops hmove, Skin.run_of_answer hmove _, Skin.run_noting_of_answer hmove place _⟩

/-! ## §3. In which order, and with what. -/

namespace Note

def enteredAt? : Note α → Option Nat
  | .entered place _ _ => some place
  | _ => none

def wentOnAt? : Note α → Option Nat
  | .wentOn place _ _ => some place
  | _ => none

def answeredAt? : Note α → Option Nat
  | .answered place _ => some place
  | _ => none

def leftAt? : Note α → Option Nat
  | .left place _ _ => some place
  | _ => none

/-- What the service is called with. -/
def served? : Note α → Option (Call × Value)
  | .served call req _ => some (call, req)
  | _ => none

/-- What a skin goes on with. -/
def onward? : Note α → Option (Call × Value)
  | .wentOn _ call req => some (call, req)
  | _ => none

/-- What a skin is entered with, or the service is called with. -/
def reached? : Note α → Option (Call × Value)
  | .entered _ call req => some (call, req)
  | .served call req _ => some (call, req)
  | _ => none

/-- The result of the rest that a skin sees. -/
def seen? : Note α → Option (Outcome α)
  | .left _ seen _ => some seen
  | _ => none

/-- What a skin or the service answers. -/
def result? : Note α → Option (Outcome α)
  | .answered _ r => some r
  | .served _ _ r => some r
  | .left _ _ r => some r
  | _ => none

theorem mem_enteredAt {notes : List (Note α)} {place : Nat} :
    place ∈ notes.filterMap enteredAt? ↔ ∃ call req, .entered place call req ∈ notes := by
  rw [List.mem_filterMap]
  constructor
  · rintro ⟨note, hnote, hplace⟩
    cases note with
    | entered place' call req =>
      obtain rfl := Option.some.inj hplace
      exact ⟨call, req, hnote⟩
    | wentOn | answered | served | left => cases hplace
  · rintro ⟨call, req, hnote⟩
    exact ⟨_, hnote, rfl⟩

theorem served_ne_nil {notes : List (Note α)} {call : Call} {req : Value} {r : Outcome α}
    (h : .served call req r ∈ notes) : notes.filterMap served? ≠ [] :=
  List.ne_nil_of_mem (List.mem_filterMap.2 ⟨_, h, rfl⟩)

/-- What is found in the notes of a skin that went on, around those of the
rest. -/
theorem filterMap_around {γ : Type} (f : Note α → Option γ) (entered wentOn left : Note α) (notes : List (Note α)) :
    (entered :: wentOn :: (notes ++ [left])).filterMap f
      = (f entered).toList ++ (f wentOn).toList ++ notes.filterMap f ++ (f left).toList := by
  have hone : ∀ note : Note α, [note].filterMap f = (f note).toList := by
    intro note
    rw [List.filterMap_cons]
    cases f note with
    | none => rfl
    | some a => rfl
  rw [← hone, ← hone, ← hone, ← List.filterMap_append, ← List.filterMap_append, ← List.filterMap_append]
  simp

end Note

/-- What the notes of a call say that is answered by some skins, the first of
them at a place. -/
structure Layered (place n : Nat) (call : Call) (req : Value) (notes : List (Note α)) (r : Outcome α) : Prop where
  /-- The first skins go on, and those who went on are left in the reverse
  order.  Either these are all skins, and the service is called once; or the
  next skin is entered as well and answers, and nothing behind it is
  reached. -/
  turns : ∃ k, notes.filterMap Note.wentOnAt? = List.range' place k
    ∧ notes.filterMap Note.leftAt? = (List.range' place k).reverse
    ∧ ((k = n ∧ notes.filterMap Note.enteredAt? = List.range' place k ∧ notes.filterMap Note.answeredAt? = []
        ∧ (notes.filterMap Note.served?).length = 1)
      ∨ (k < n ∧ notes.filterMap Note.enteredAt? = List.range' place (k + 1)
        ∧ notes.filterMap Note.answeredAt? = [place + k] ∧ notes.filterMap Note.served? = []))
  /-- Whoever is reached is reached with what the one before went on with, and
  the first with the call as it came. -/
  inward : notes.filterMap Note.reached? = (call, req) :: notes.filterMap Note.onward?
  /-- Whoever went on sees what the next one answered, and the answer of the
  first is that to the call. -/
  outward : notes.filterMap Note.result? = notes.filterMap Note.seen? ++ [r]

section
variable {service : Answering (StateM σ) α} {place i : Nat} {skins : List (Skin σ α)} {call : Call} {req : Value}
  {st st' : σ} {notes : List (Note α)} {r : Outcome α}

/-- **What an onion says**: by induction from the core outward. -/
theorem Onion.layered (h : Onion service place skins call req st notes r st') :
    Layered place skins.length call req notes r := by
  induction h with
  | core hservice =>
    exact ⟨⟨0, rfl, rfl, .inl ⟨rfl, rfl, rfl, rfl⟩⟩, rfl, rfl⟩
  | stops hmove =>
    exact ⟨⟨0, rfl, rfl, .inr ⟨Nat.succ_pos _, rfl, rfl, rfl⟩⟩, rfl, rfl⟩
  | @goesOn place skin rest call call' req req' st st₁ st₂ st' notes after seen r hmove _ hafter ih =>
    obtain ⟨⟨k, hwentOn, hleft, hturns⟩, hinward, houtward⟩ := ih
    refine ⟨⟨k + 1, ?_, ?_, ?_⟩, ?_, ?_⟩
    · rw [Note.filterMap_around, hwentOn]
      simp [Note.wentOnAt?, List.range'_succ]
    · rw [Note.filterMap_around, hleft]
      simp [Note.leftAt?, List.range'_succ]
    · rw [Note.filterMap_around, Note.filterMap_around, Note.filterMap_around]
      rcases hturns with ⟨hk, hentered, hanswered, hserved⟩ | ⟨hk, hentered, hanswered, hserved⟩
      · rw [hentered, hanswered]
        refine .inl ⟨congrArg Nat.succ hk, ?_, rfl, ?_⟩
        · simp [Note.enteredAt?, List.range'_succ]
        · simpa [Note.served?] using hserved
      · rw [hentered, hanswered, hserved]
        refine .inr ⟨Nat.succ_lt_succ hk, ?_, ?_, rfl⟩
        · simp [Note.enteredAt?, List.range'_succ]
        · show [place + 1 + k] = [place + (k + 1)]
          rw [Nat.add_assoc, Nat.add_comm 1 k]
    · rw [Note.filterMap_around, Note.filterMap_around, hinward]
      simp [Note.reached?, Note.onward?]
    · rw [Note.filterMap_around, Note.filterMap_around, houtward]
      simp [Note.result?, Note.seen?]

/-- Behind a skin that answers nothing is reached. -/
theorem Layered.not_reached (h : Layered 0 skins.length call req notes r) {r' : Outcome α}
    (hanswered : .answered i r' ∈ notes) :
    (∀ j call' req', i < j → .entered j call' req' ∉ notes) ∧ ∀ call' req' r'', .served call' req' r'' ∉ notes := by
  obtain ⟨k, -, -, ⟨-, -, hnone, -⟩ | ⟨-, hentered, hone, hserved⟩⟩ := h.turns
  · have hmem : i ∈ notes.filterMap Note.answeredAt? := List.mem_filterMap.2 ⟨_, hanswered, rfl⟩
    rw [hnone] at hmem
    cases hmem
  · have hmem : i ∈ notes.filterMap Note.answeredAt? := List.mem_filterMap.2 ⟨_, hanswered, rfl⟩
    rw [hone, List.mem_singleton] at hmem
    constructor
    · intro j call' req' hj hnote
      have hplace := Note.mem_enteredAt.2 ⟨call', req', hnote⟩
      rw [hentered, List.mem_range'_1] at hplace
      omega
    · intro call' req' r'' hnote
      exact Note.served_ne_nil hnote hserved

/-- Something behind the skin at a place was reached. -/
def Behind (i : Nat) (notes : List (Note α)) : Prop :=
  (∃ j call req, i < j ∧ .entered j call req ∈ notes) ∨ ∃ call req r, .served call req r ∈ notes

/-- What is behind a skin is reached through the skin. -/
theorem Layered.entered_of_behind (h : Layered 0 skins.length call req notes r) (hi : i < skins.length)
    (hbehind : Behind i notes) : ∃ call' req', .entered i call' req' ∈ notes := by
  refine Note.mem_enteredAt.1 ?_
  obtain ⟨k, -, -, ⟨hk, hentered, -, -⟩ | ⟨-, hentered, -, hserved⟩⟩ := h.turns
  · rw [hentered, List.mem_range'_1]
    omega
  · rcases hbehind with ⟨j, call', req', hj, hnote⟩ | ⟨call', req', r', hnote⟩
    · have hplace := Note.mem_enteredAt.2 ⟨call', req', hnote⟩
      rw [hentered, List.mem_range'_1] at hplace ⊢
      omega
    · exact absurd hserved (Note.served_ne_nil hnote)

/-- Every note of a skin is at its place or further in. -/
theorem Onion.le_of_entered (h : Onion service place skins call req st notes r st') {call' : Call} {req' : Value}
    (hnote : .entered i call' req' ∈ notes) : place ≤ i := by
  obtain ⟨k, -, -, hturns⟩ := h.layered.turns
  have hplace := Note.mem_enteredAt.2 ⟨call', req', hnote⟩
  rcases hturns with ⟨-, hentered, -⟩ | ⟨-, hentered, -⟩
  · rw [hentered, List.mem_range'_1] at hplace
    exact hplace.1
  · rw [hentered, List.mem_range'_1] at hplace
    exact hplace.1

/-- **A skin does as it decides** on the call that it is entered with. -/
theorem Onion.moves (h : Onion service place skins call req st notes r st') {skin : Skin σ α}
    (hskin : skins[i]? = some skin) {call' : Call} {req' : Value} (hnote : .entered (place + i) call' req' ∈ notes) :
    ∃ st₀, match ((skin.move call' req').run st₀).1 with
      | .onward call'' req'' _ => .wentOn (place + i) call'' req'' ∈ notes
      | .answer r' => .answered (place + i) r' ∈ notes := by
  induction h generalizing i with
  | core _ => cases hskin
  | @stops place skin' rest call req st st' r hmove =>
    cases i with
    | zero =>
      obtain rfl := Option.some.inj hskin
      obtain ⟨rfl, rfl⟩ : call' = call ∧ req' = req := by simpa using hnote
      refine ⟨st, ?_⟩
      rw [hmove]
      exact List.mem_cons_of_mem _ List.mem_cons_self
    | succ i => simp at hnote
  | @goesOn place skin' rest call call₁ req req₁ st st₁ st₂ st' notes after seen r hmove hrest hafter ih =>
    cases i with
    | zero =>
      obtain rfl := Option.some.inj hskin
      have hnot : .entered place call' req' ∉ notes := by
        intro hinner
        have hle := hrest.le_of_entered hinner
        omega
      obtain ⟨rfl, rfl⟩ : call' = call ∧ req' = req := by simpa [hnot] using hnote
      refine ⟨st, ?_⟩
      rw [hmove]
      exact List.mem_cons_of_mem _ List.mem_cons_self
    | succ i =>
      have hplace : place + (i + 1) = place + 1 + i := by omega
      rw [hplace] at hnote ⊢
      have hinner : .entered (place + 1 + i) call' req' ∈ notes := by
        have hne : place + 1 + i ≠ place := by omega
        simpa [hne] using hnote
      have hwider : ∀ note ∈ notes,
          note ∈ .entered place call req :: .wentOn place call₁ req₁ :: (notes ++ [.left place seen r]) :=
        fun note hmem => List.mem_cons_of_mem _ (List.mem_cons_of_mem _ (List.mem_append_left _ hmem))
      obtain ⟨st₀, hmoved⟩ := ih hskin hinner
      refine ⟨st₀, ?_⟩
      split at hmoved
      · exact hwider _ hmoved
      · exact hwider _ hmoved

end

/-! ## §4. Behind the access policy. -/

section
variable {p : AccessPolicy} {metricsOf : σ → Metrics} {withMetrics : σ → Metrics → σ} {call : Call}

/-- The policy goes on with an allowed call as it is. -/
theorem Skin.access_of_allow {rule : Nat} (h : p.authorize call.consumer call.method.full = .allow rule) (req : Value)
    (st : σ) : ((access p metricsOf withMetrics : Skin σ α).move call req).run st
      = (.onward call req (fun r => do return r), withMetrics st (metricsOf st).countAllowed) := by
  unfold access ofLink AccessPolicy.link
  have hjudge := AccessPolicy.judge_of_allow h (metricsOf st)
  simp only [bind_assoc, bind_pure_comp, map_pure, StateT.run_bind, StateT.run_modifyGet, hjudge, pure_bind,
    StateT.run_pure]
  rfl

/-- The policy stops a denied call with the reason. -/
theorem Skin.access_of_deny {reason : DenyReason} (h : p.authorize call.consumer call.method.full = .deny reason)
    (req : Value) (st : σ) : ((access p metricsOf withMetrics : Skin σ α).move call req).run st
      = (.answer (.error reason.failure), withMetrics st ((metricsOf st).countDenied reason.failure.code)) := by
  unfold access ofLink AccessPolicy.link
  have hjudge := AccessPolicy.judge_of_deny h (metricsOf st)
  simp only [bind_assoc, bind_pure_comp, map_pure, StateT.run_bind, StateT.run_modifyGet, hjudge, pure_bind,
    StateT.run_pure]
  rfl

end

/-- The skin at a place decides as an access policy does, and behind it nothing
is reached unless the policy allows the call that it was entered with. -/
structure Guarded (p : AccessPolicy) (i : Nat) (notes : List (Note α)) : Prop where
  decides : ∀ call req, .entered i call req ∈ notes →
    match p.authorize call.consumer call.method.full with
    | .allow _ => .wentOn i call req ∈ notes
    | .deny reason => .answered i (.error reason.failure) ∈ notes
  behind : Behind i notes → ∃ call req rule, .entered i call req ∈ notes
    ∧ p.authorize call.consumer call.method.full = .allow rule

/-- **Nothing is reached behind a policy that denies the call.** -/
theorem Onion.guarded {service : Answering (StateM σ) α} {skins : List (Skin σ α)} {call : Call} {req : Value}
    {st st' : σ} {notes : List (Note α)} {r : Outcome α} (h : Onion service 0 skins call req st notes r st') {i : Nat}
    {p : AccessPolicy} {metricsOf : σ → Metrics} {withMetrics : σ → Metrics → σ}
    (hskin : skins[i]? = some (Skin.access p metricsOf withMetrics)) : Guarded p i notes := by
  have hdecides : ∀ call req, .entered i call req ∈ notes →
      match p.authorize call.consumer call.method.full with
      | .allow _ => .wentOn i call req ∈ notes
      | .deny reason => .answered i (.error reason.failure) ∈ notes := by
    intro call' req' hnote
    obtain ⟨st₀, hmoved⟩ := h.moves hskin (by rwa [Nat.zero_add])
    rw [Nat.zero_add] at hmoved
    cases hauthorize : p.authorize call'.consumer call'.method.full with
    | allow rule =>
      rw [Skin.access_of_allow hauthorize] at hmoved
      exact hmoved
    | deny reason =>
      rw [Skin.access_of_deny hauthorize] at hmoved
      exact hmoved
  refine ⟨hdecides, fun hbehind => ?_⟩
  have hi : i < skins.length := (List.getElem?_eq_some_iff.1 hskin).1
  obtain ⟨call', req', hnote⟩ := h.layered.entered_of_behind hi hbehind
  have hdecided := hdecides call' req' hnote
  cases hauthorize : p.authorize call'.consumer call'.method.full with
  | allow rule => exact ⟨call', req', rule, hnote, hauthorize⟩
  | deny reason =>
    -- the skin has answered, so nothing is behind it
    rw [hauthorize] at hdecided
    obtain ⟨hentered, hserved⟩ := h.layered.not_reached hdecided
    rcases hbehind with ⟨j, call'', req'', hj, hmem⟩ | ⟨call'', req'', r'', hmem⟩
    · exact absurd hmem (hentered j call'' req'' hj)
    · exact absurd hmem (hserved call'' req'' r'')

/-! ## §5. Unary and streaming calls. -/

/-- What a decision is, whatever the type of the results: the call and the
request to go on with, or the failure to answer with, if any. -/
def Move.face : Move σ α → (Call × Value) ⊕ Outcome Unit
  | .onward call req _ => .inl (call, req)
  | .answer r => .inr (r.map fun _ => ())

/-- Two skins, one for unary and one for streaming calls, decide alike and do
the same to the state on the way in. -/
def Skin.Alike (a : Skin σ α) (b : Skin σ β) : Prop :=
  ∀ call req st, ((a.move call req).run st).1.face = ((b.move call req).run st).1.face
    ∧ ((a.move call req).run st).2 = ((b.move call req).run st).2

/-- The policy acts alike on all calls. -/
theorem Skin.alike_access (p : AccessPolicy) (metricsOf : σ → Metrics) (withMetrics : σ → Metrics → σ) :
    Alike (access p metricsOf withMetrics : Skin σ α) (access p metricsOf withMetrics : Skin σ β) := by
  intro call req st
  cases h : p.authorize call.consumer call.method.full with
  | allow rule =>
    rw [access_of_allow h, access_of_allow h]
    exact ⟨rfl, rfl⟩
  | deny reason =>
    rw [access_of_deny h, access_of_deny h]
    exact ⟨rfl, rfl⟩

/-- What a note says about the way in, without the results of the service; of
the answer of a skin that does not go on, whether it is a failure and which. -/
def Note.inward? : Note α → Option (Note Unit)
  | .entered place call req => some (.entered place call req)
  | .wentOn place call req => some (.wentOn place call req)
  | .answered place r => some (.answered place (r.map fun _ => ()))
  | .served call req _ => some (.served call req (.ok ()))
  | .left .. => none

/-- **Skins that act alike are passed alike**, whatever the services do. -/
theorem Onion.alike {unaryService : Answering (StateM σ) α} {streamService : Answering (StateM σ) β} {place : Nat}
    {us : List (Skin σ α)} {ss : List (Skin σ β)} {call : Call} {req : Value} {st st' st'' : σ} {notes : List (Note α)}
    {notes' : List (Note β)} {r : Outcome α} {r' : Outcome β}
    (h : Onion unaryService place us call req st notes r st')
    (h' : Onion streamService place ss call req st notes' r' st'') (halike : List.Forall₂ Skin.Alike us ss) :
    notes.filterMap Note.inward? = notes'.filterMap Note.inward? := by
  induction h generalizing ss notes' r' st'' with
  | core _ =>
    cases halike
    cases h' with
    | core _ => rfl
  | @stops place skin rest call req st st' r hmove =>
    cases halike with
    | cons hhead _ =>
      obtain ⟨hface, -⟩ := hhead call req st
      rw [hmove] at hface
      cases h' with
      | stops hmove' =>
        rw [hmove'] at hface
        have hfailure := Sum.inr.inj hface
        show [Note.entered place call req, .answered place _] = [Note.entered place call req, .answered place _]
        rw [hfailure]
      | goesOn hmove' _ _ =>
        rw [hmove'] at hface
        cases hface
  | @goesOn place skin rest call call₁ req req₁ st st₁ st₂ st' notes after seen r hmove _ _ ih =>
    cases halike with
    | cons hhead hrest =>
      obtain ⟨hface, hstate⟩ := hhead call req st
      rw [hmove] at hface hstate
      cases h' with
      | stops hmove' =>
        rw [hmove'] at hface
        cases hface
      | goesOn hmove' hinner _ =>
        rw [hmove'] at hface hstate
        obtain ⟨rfl, rfl⟩ := Prod.mk.inj (Sum.inl.inj hface)
        obtain rfl : st₁ = _ := hstate
        rw [Note.filterMap_around, Note.filterMap_around, ih hinner hrest]
        rfl

/-- A call is answered by skins around a service: with the notes, and without
them. -/
structure Peels (service : Answering (StateM σ) α) (skins : List (Skin σ α)) (call : Call) (req : Value) (st : σ)
    (watched : (Outcome α × List (Note α)) × σ) (plain : Outcome α × σ) : Prop where
  -- Noting what happens changes nothing.
  unchanged : plain = (watched.1.1, watched.2)
  onion : Onion service 0 skins call req st watched.1.2 watched.1.1 watched.2
  layered : Layered 0 skins.length call req watched.1.2 watched.1.1
  guarded : ∀ i p metricsOf withMetrics, skins[i]? = some (Skin.access p metricsOf withMetrics) →
    Guarded p i watched.1.2

theorem peels (service : Answering (StateM σ) α) (skins : List (Skin σ α)) (call : Call) (req : Value) (st : σ) :
    Peels service skins call req st
      (((around (notingFrom 0 skins) (notingService service) call req).run []).run st)
      ((around (skins.map Skin.interceptor) service call req).run st) := by
  obtain ⟨notes, r, st', honion, hplain, hnoting⟩ := exists_onion service skins 0 call req st
  rw [hplain, hnoting []]
  exact ⟨rfl, honion, honion.layered, fun i p metricsOf withMetrics hskin => honion.guarded hskin⟩

/-- **A chain is an onion, and the same one for unary and for streaming
calls.** Take any interceptors each of which goes on once or answers by itself,
any services, and a call in any state.

* The interceptors are entered in their order, up to the first that does not
  go on.  If all of them go on, the service is called once, and else neither
  the service nor anything behind the one that stopped is reached.  Those who
  went on are left in the reverse order.
* Each is entered with what the one before went on with, and the service is
  called with what the last one went on with.  Each sees what the next one
  answered.
* Behind an access policy nothing is reached, the service included, unless the
  policy allows the call that reached it.
* If the interceptors of unary and of streaming calls act alike, one by one,
  then the same are entered with the same, the same one stops the call with the
  same failure, and the services are called with the same. -/
theorem unary_and_stream_peel_alike (taps : List (Call → StateM σ Unit)) (us : List (Skin σ Value))
    (ss : List (Skin σ β)) (unaryService : Answering (StateM σ) Value) (streamService : Answering (StateM σ) β)
    (call : Call) (req : Value) (st : σ) :
    let c : Chain (StateM σ) β := { taps, unary := us.map Skin.interceptor, stream := ss.map Skin.interceptor }
    let u := watchUnary us unaryService call req st
    let s := watchStream ss streamService call req st
    Peels unaryService us call req st u ((c.runUnary unaryService call req).run st)
    ∧ Peels streamService ss call req st s ((c.runStream streamService call req).run st)
    ∧ (List.Forall₂ Skin.Alike us ss → u.1.2.filterMap Note.inward? = s.1.2.filterMap Note.inward?) := by
  intro c u s
  have hunary : Peels unaryService us call req st u ((c.runUnary unaryService call req).run st) :=
    peels unaryService us call req st
  have hstream : Peels streamService ss call req st s ((c.runStream streamService call req).run st) :=
    peels streamService ss call req st
  exact ⟨hunary, hstream, fun halike => hunary.onion.alike hstream.onion halike⟩

/-- A call goes on in the name of a consumer whom the policy does not know: it
is stopped there, unary or streaming, and no service is called. -/
theorem unknown_name_is_stopped : ∃ (p : AccessPolicy) (call : Call) (u : List (Note Value)) (s : List (Note Unit)),
    p = ⟨[("a", [])]⟩ ∧ call.consumer = "a"
    ∧ u = (watchUnary [.inNameOf "b", .access p id fun _ m => m] (fun _ req => return .ok req) call .null
        ({} : Metrics)).1.2
    ∧ s = (watchStream [.inNameOf "b", .access p id fun _ m => m] (fun _ _ => return .ok ()) call .null
        ({} : Metrics)).1.2
    ∧ u.filterMap Note.inward? = s.filterMap Note.inward?
    ∧ s.filterMap Note.inward? = [.entered 0 call .null, .wentOn 0 { call with consumer := "b" } .null,
        .entered 1 { call with consumer := "b" } .null, .answered 1 (.error DenyReason.unknownConsumer.failure)] := by
  have hs : IsSegment "s" := ⟨by decide, by decide⟩
  obtain ⟨-, -, halike⟩ := unary_and_stream_peel_alike (σ := Metrics) (β := Unit) []
    [.inNameOf "b", .access ⟨[("a", [])]⟩ id fun _ m => m] [.inNameOf "b", .access ⟨[("a", [])]⟩ id fun _ m => m]
    (fun _ req => return .ok req) (fun _ _ => return .ok ()) ⟨⟨"s", "s", hs, hs⟩, "a", "peer"⟩ .null {}
  have hboth := halike (.cons (fun _ _ _ => ⟨rfl, rfl⟩) (.cons (Skin.alike_access _ _ _) .nil))
  exact ⟨_, _, _, _, rfl, rfl, rfl, rfl, hboth, rfl⟩

end Chain

namespace Gateway

/-! ## §6. The chain of a gateway. -/

/-- **The chain of a gateway** has one skin on either side, its access
policy. -/
theorem chain_skins (g : Gateway) (wall : Int64) :
    let policy (α : Type) : Chain.Skin Hub α := .access g.policy (·.metrics) fun hub metrics => { hub with metrics }
    g.chain wall = { g.chain wall with
      unary := [policy Value].map Chain.Skin.interceptor, stream := [policy Handler].map Chain.Skin.interceptor } := by
  intro policy
  have hpolicy : ∀ α : Type, (policy α).interceptor = _ := fun α => Chain.Skin.interceptor_ofLink _
  rw [List.map_singleton, List.map_singleton, hpolicy, hpolicy]
  rfl

end Gateway

end CallGateway

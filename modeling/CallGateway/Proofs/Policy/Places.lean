/-
  CallGateway.Proofs.Policy.Places
  ────────────────────────────────
  **THE MATCHER AS A LOOP.**

  The matcher needs no more than three numbers to know how far it is: a place
  in the glob, a place in the text, and the places that belong to the latest
  star.  Each turn of the loop looks at the glob and at the text where it is,
  and moves on or goes back behind that star (`turn`).

  A turn never looks outside, and does what one step of the walk does
  (`Within.turn`).  It may go back in the text, but then the latest star takes
  one byte more; so the loop comes to its end, with the answer of the walk.
-/
import CallGateway.Proofs.Policy.Wildcard

namespace CallGateway.Glob

/-! ## §1. The loop. -/

/-- How far the matcher is. -/
structure Place where
  glob : Nat := 0
  text : Nat := 0
  -- The place of the latest star in the glob, and where its run ends in the text.
  star : Option (Nat × Nat) := none
  deriving DecidableEq

/-- What comes of a turn. -/
inductive Turn where
  | goesOn (p : Place)
  | ends (found : Bool)
  -- It looked outside the glob or the text.
  | astray
  deriving DecidableEq

/-- Where it cannot go on, the matcher goes back, and the latest star takes one
byte more. -/
def again (p : Place) : Turn :=
  match p.star with
  | some (atStar, upTo) => .goesOn { glob := atStar + 1, text := upTo + 1, star := some (atStar, upTo + 1) }
  | none => .ends false

/-- One turn of the loop. -/
def turn (glob text : Bytes) (p : Place) : Turn :=
  if p.text < text.length then
    if p.glob < glob.length then
      match glob[p.glob]?, text[p.text]? with
      | some g, some b =>
        if g = Ascii.star then .goesOn { p with glob := p.glob + 1, star := some (p.glob, p.text) }
        else if g = b then .goesOn { p with glob := p.glob + 1, text := p.text + 1 }
        else again p
      | _, _ => .astray
    else again p
  else if p.glob ≤ glob.length then .ends ((glob.drop p.glob).all (· == Ascii.star))
  else .astray

/-- Some turns of the loop, or as many as it takes. -/
def turns (glob text : Bytes) : Nat → Place → Turn
  | 0, p => .goesOn p
  | n + 1, p =>
    match turn glob text p with
    | .goesOn p' => turns glob text n p'
    | t => t

/-! ## §2. Steps of the walk. -/

section
variable {gs bs : Bytes} {g b : UInt8} {retry : Option (Bytes × Bytes)}

theorem walk_nil (glob : Bytes) (retry : Option (Bytes × Bytes)) :
    walk glob [] retry = glob.all (· == Ascii.star) := by
  rw [walk]

theorem walk_star : walk (Ascii.star :: gs) (b :: bs) retry = walk gs (b :: bs) (some (gs, b :: bs)) := by
  rw [walk.eq_def]
  exact if_pos rfl

theorem walk_same (hg : g ≠ Ascii.star) : walk (g :: gs) (g :: bs) retry = walk gs bs retry := by
  rw [walk.eq_def]
  exact (if_neg hg).trans (if_pos rfl)

/-- The walk cannot go on. -/
def Stuck (glob : Bytes) (b : UInt8) : Prop := ∀ g gs, glob = g :: gs → g ≠ Ascii.star ∧ g ≠ b

theorem walk_again {glob behind : Bytes} {c : UInt8} (h : Stuck glob b) :
    walk glob (b :: bs) (some (behind, c :: gs)) = walk behind gs (some (behind, gs)) := by
  rw [walk.eq_def]
  cases glob with
  | nil => rfl
  | cons g rest =>
    obtain ⟨hstar, hne⟩ := h g rest rfl
    exact (if_neg hstar).trans (if_neg hne)

theorem walk_none {glob : Bytes} (h : Stuck glob b) : walk glob (b :: bs) none = false := by
  rw [walk.eq_def]
  cases glob with
  | nil => rfl
  | cons g rest =>
    obtain ⟨hstar, hne⟩ := h g rest rfl
    exact (if_neg hstar).trans (if_neg hne)

end

/-! ## §3. What a turn does. -/

section
variable {glob text : Bytes} {p : Place}

/-- The matcher is where it may look, and the latest star lies behind it. -/
structure Within (glob text : Bytes) (p : Place) : Prop where
  glob : p.glob ≤ glob.length
  text : p.text ≤ text.length
  star : ∀ atStar upTo, p.star = some (atStar, upTo) → atStar < p.glob ∧ upTo ≤ p.text

theorem within_start (glob text : Bytes) : Within glob text {} := ⟨Nat.zero_le _, Nat.zero_le _, nofun⟩

/-- What the walk finds from a place on. -/
def found (glob text : Bytes) (p : Place) : Bool :=
  walk (glob.drop p.glob) (text.drop p.text) (p.star.map fun s => (glob.drop (s.1 + 1), text.drop s.2))

/-- More than the turns that are left. A star that takes one byte more outweighs
the whole way that is gone again. -/
def turnsLeft (glob text : Bytes) (p : Place) : Nat :=
  (text.length - (p.star.map Prod.snd).getD 0) * (glob.length + text.length + 1)
    + (glob.length - p.glob) + (text.length - p.text)

/-- What one turn comes to, for a matcher that is where it may look. -/
def Turn.Sound (glob text : Bytes) (p : Place) : Turn → Prop
  | .goesOn p' => Within glob text p' ∧ found glob text p' = found glob text p
      ∧ turnsLeft glob text p' < turnsLeft glob text p
  | .ends b => found glob text p = b
  | .astray => False

/-- Going back is what the walk does where it cannot go on. -/
theorem Within.again (h : Within glob text p) (hlt : p.text < text.length)
    (hstuck : Stuck (glob.drop p.glob) text[p.text]) : (Glob.again p).Sound glob text p := by
  have hfound : found glob text p = walk (glob.drop p.glob) (text[p.text] :: text.drop (p.text + 1))
      (p.star.map fun s => (glob.drop (s.1 + 1), text.drop s.2)) := by
    rw [found, List.drop_eq_getElem_cons hlt]
  unfold Glob.again
  cases hstar : p.star with
  | none =>
    rw [hstar] at hfound
    exact hfound.trans (walk_none hstuck)
  | some s =>
    obtain ⟨atStar, upTo⟩ := s
    obtain ⟨hat, hup⟩ := h.star atStar upTo hstar
    have hltUp : upTo < text.length := by omega
    refine ⟨⟨?_, ?_, ?_⟩, ?_, ?_⟩
    · exact Nat.le_trans hat h.glob
    · exact hltUp
    · rintro _ _ ⟨⟩
      exact ⟨Nat.lt_succ_self _, Nat.le_refl _⟩
    · rw [hfound, hstar, Option.map_some, List.drop_eq_getElem_cons hltUp, walk_again hstuck]
      rfl
    · have hweight : (text.length - upTo) * (glob.length + text.length + 1)
          = (text.length - (upTo + 1)) * (glob.length + text.length + 1) + (glob.length + text.length + 1) := by
        rw [← Nat.succ_mul]
        congr 1
        omega
      unfold turnsLeft
      rw [hstar]
      simp only [Option.map_some, Option.getD_some]
      rw [hweight]
      omega

/-- **A turn stays where it may look and does what the walk does**, and one turn
fewer is left. -/
theorem Within.turn (h : Within glob text p) : (Glob.turn glob text p).Sound glob text p := by
  unfold Glob.turn
  by_cases hlt : p.text < text.length
  · rw [if_pos hlt]
    by_cases hglob : p.glob < glob.length
    · have hdropGlob := List.drop_eq_getElem_cons hglob
      have hdropText := List.drop_eq_getElem_cons hlt
      rw [if_pos hglob, List.getElem?_eq_getElem hglob, List.getElem?_eq_getElem hlt]
      simp only
      by_cases hstar : glob[p.glob] = Ascii.star
      · rw [if_pos hstar]
        refine ⟨⟨hglob, h.text, ?_⟩, ?_, ?_⟩
        · rintro _ _ ⟨⟩
          exact ⟨Nat.lt_succ_self _, Nat.le_refl _⟩
        · rw [found, found, hdropGlob, hdropText, hstar, walk_star, ← hdropText]
          rfl
        · -- the run of a new star ends behind that of the one before
          have hrun : (p.star.map Prod.snd).getD 0 ≤ p.text := by
            cases hs : p.star with
            | none => exact Nat.zero_le _
            | some s => exact (h.star s.1 s.2 hs).2
          have hweight := Nat.mul_le_mul_right (glob.length + text.length + 1)
            (Nat.sub_le_sub_left hrun text.length)
          unfold turnsLeft
          simp only [Option.map_some, Option.getD_some]
          omega
      · rw [if_neg hstar]
        by_cases hsame : glob[p.glob] = text[p.text]
        · rw [if_pos hsame]
          refine ⟨⟨hglob, hlt, fun atStar upTo hs => ?_⟩, ?_, ?_⟩
          · obtain ⟨hat, hup⟩ := h.star atStar upTo hs
            exact ⟨Nat.lt_succ_of_lt hat, Nat.le_succ_of_le hup⟩
          · rw [found, found, hdropGlob, hdropText, ← hsame, walk_same hstar]
          · unfold turnsLeft
            simp only
            omega
        · rw [if_neg hsame]
          refine h.again hlt ?_
          rintro g gs heq
          rw [hdropGlob] at heq
          obtain ⟨rfl, -⟩ := List.cons.inj heq
          exact ⟨hstar, hsame⟩
    · rw [if_neg hglob]
      refine h.again hlt ?_
      rw [List.drop_eq_nil_of_le (Nat.le_of_not_lt hglob)]
      exact nofun
  · rw [if_neg hlt, if_pos h.glob]
    show found glob text p = _
    rw [found, List.drop_eq_nil_of_le (Nat.le_of_not_lt hlt), walk_nil]

/-! ## §4. The whole loop. -/

theorem Within.turns_of_lt (n : Nat) : ∀ {p : Place}, Within glob text p → turnsLeft glob text p < n →
    turns glob text n p = .ends (found glob text p) := by
  induction n with
  | zero => exact fun _ hn => absurd hn (Nat.not_lt_zero _)
  | succ n ih =>
    intro p h hn
    have hturn := h.turn
    unfold turns
    cases ht : Glob.turn glob text p with
    | goesOn p' =>
      rw [ht] at hturn
      obtain ⟨hwithin, hfound, hleft⟩ := hturn
      show turns glob text n p' = _
      rw [ih hwithin (by omega), hfound]
    | ends b =>
      rw [ht] at hturn
      exact congrArg Turn.ends hturn.symm
    | astray =>
      rw [ht] at hturn
      exact hturn.elim

theorem Within.turns (n : Nat) : ∀ {p : Place}, Within glob text p →
    turns glob text n p ≠ .astray ∧ ∀ p', turns glob text n p = .goesOn p' → Within glob text p' := by
  induction n with
  | zero =>
    intro p h
    refine ⟨nofun, ?_⟩
    rintro _ ⟨⟩
    exact h
  | succ n ih =>
    intro p h
    have hturn := h.turn
    unfold Glob.turns
    cases ht : Glob.turn glob text p with
    | goesOn p' =>
      rw [ht] at hturn
      exact ih hturn.1
    | ends b => exact ⟨nofun, nofun⟩
    | astray =>
      rw [ht] at hturn
      exact hturn.elim

end

/-- **The loop decides what a glob describes.** For every glob and every text

* it comes to an end after a bounded number of turns, and its answer is that of
  the matcher;
* it never looks outside the glob or the text, and always is at a place in both
  of them;
* the answer is yes just where the text splits into one run for each byte of the
  glob, any run for a star and the byte itself for any other. -/
theorem turns_end_accepts_iff_runs (glob text : Bytes) :
    (∃ n ≤ (text.length + 1) * (glob.length + text.length + 1), turns glob text n {} = .ends (accepts glob text))
      ∧ (∀ n, turns glob text n {} ≠ .astray ∧ ∀ p, turns glob text n {} = .goesOn p → Within glob text p)
      ∧ (accepts glob text = true ↔ ∃ runs : List Bytes, text = runs.flatten
          ∧ List.Forall₂ (fun g run => g = Ascii.star ∨ run = [g]) glob runs) := by
  have h := within_start glob text
  refine ⟨⟨_, Nat.le_refl _, ?_⟩, fun n => h.turns n, (accepts_iff glob text).trans Wildcard.iff_runs⟩
  refine (h.turns_of_lt _ ?_).trans rfl
  unfold turnsLeft
  simp only [Option.map_none, Option.getD_none, Nat.sub_zero]
  rw [Nat.add_mul]
  omega

/-- The first try of `*ab` on `aab` fails at the second byte; then the star takes
a byte more. -/
theorem star_takes_one_more : ∃ glob text : Bytes, glob = [Ascii.star, 97, 98] ∧ text = [97, 97, 98]
    ∧ accepts glob text = true ∧ ∃ n ≤ 28, turns glob text n {} = .ends true := by
  obtain ⟨⟨n, hn, hends⟩, -, hruns⟩ := turns_end_accepts_iff_runs [Ascii.star, 97, 98] [97, 97, 98]
  have haccepts := hruns.2 ⟨[[97], [97], [98]], rfl, .cons (.inl rfl) (.cons (.inr rfl) (.cons (.inr rfl) .nil))⟩
  rw [haccepts] at hends
  exact ⟨_, _, rfl, rfl, haccepts, n, hn, hends⟩

end CallGateway.Glob

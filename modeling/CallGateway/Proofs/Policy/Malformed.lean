/-
  CallGateway.Proofs.Policy.Malformed
  ───────────────────────────────────
  **TEXTS THAT NAME NO METHOD.**

  A pattern cuts a text at its slashes by itself and does not ask whether
  the text names a method.  It takes no text without a leading slash, and
  none with fewer or more than two parts.  What it does not look at is
  whether a part is empty: there it is left to the segment, and a segment of
  nothing but stars takes the empty part (`accepts_malformed_iff`).  So a
  policy may allow what is not the name of any method (`stars_allow_malformed`),
  and it does so just where stars fill the gap (`allows_malformed_iff_gap`).
-/
import CallGateway.Proofs.Policy.Access

namespace CallGateway

/-! ## §1. Texts of two parts. -/

/-- A text has two parts without slashes, and either may be empty. -/
def TwoParts (text s t : String) : Prop :=
  '/' ∉ s.toList ∧ '/' ∉ t.toList ∧ text = "/" ++ s ++ "/" ++ t

theorem TwoParts.toList_eq {text s t : String} (h : TwoParts text s t) :
    text.toList = '/' :: (s.toList ++ '/' :: t.toList) := by
  obtain ⟨-, -, rfl⟩ := h
  simp

theorem twoParts_of_toList {text : String} {a b : List Char} (h : text.toList = '/' :: (a ++ '/' :: b))
    (ha : '/' ∉ a) (hb : '/' ∉ b) : TwoParts text (String.ofList a) (String.ofList b) := by
  refine ⟨by simpa using ha, by simpa using hb, ?_⟩
  rw [← String.toList_inj, h]
  simp

/-- A text of two parts is a name just where neither of them is empty. -/
theorem TwoParts.eq_empty_or {text s t : String} (h : TwoParts text s t)
    (hbad : ∀ name, MethodName.parse text ≠ .ok name) : s = "" ∨ t = "" := by
  by_contra hne
  rw [not_or] at hne
  have hname : MethodName.parse text = .ok ⟨s, t, ⟨hne.1, h.1⟩, ⟨hne.2, h.2.1⟩⟩ :=
    MethodName.parse_eq_ok_iff.2 h.2.2
  exact hbad _ hname

/-- A text falls into two parts in one way only. -/
theorem TwoParts.unique {text s t s' t' : String} (h : TwoParts text s t) (h' : TwoParts text s' t') :
    s = s' ∧ t = t' := by
  have hsplit := splitSlash?_append (b := t.toList) h.1
  have hlist : s.toList ++ '/' :: t.toList = s'.toList ++ '/' :: t'.toList :=
    (List.cons.inj (h.toList_eq.symm.trans h'.toList_eq)).2
  rw [hlist, splitSlash?_append h'.1] at hsplit
  obtain ⟨hs, ht⟩ := Prod.mk.inj (Option.some.inj hsplit)
  exact ⟨String.toList_inj.1 hs.symm, String.toList_inj.1 ht.symm⟩

/-! ## §2. What a pattern takes. -/

namespace Pattern

/-- **A compiled pattern takes the texts of two parts that its segments
describe**, whether or not they are names. -/
theorem accepts_iff {raw : String} {p : Pattern} (h : compile raw = .ok p) (text : String) :
    p.accepts text = true
      ↔ ∃ service method s t, IsOf raw service method ∧ TwoParts text s t
          ∧ Wildcard '*' service.toList s.toList ∧ Wildcard '*' method.toList t.toList := by
  obtain ⟨service, method, hof, rfl⟩ := compile_eq_ok_iff.1 h
  constructor
  · intro hacc
    unfold accepts at hacc
    split at hacc
    · rename_i rest hrest
      split at hacc
      · rename_i a b hsplit
        obtain ⟨rfl, ha⟩ := splitSlash?_eq_some_iff.1 hsplit
        rw [Bool.and_eq_true, Bool.and_eq_true] at hacc
        obtain ⟨⟨hslash, hservice⟩, hmethod⟩ := hacc
        have hb : '/' ∉ b := by simpa using hslash
        refine ⟨service, method, _, _, hof, twoParts_of_toList hrest ha hb, ?_, ?_⟩
        · exact (Segment.accepts_compile hof.1.1 _).1 hservice
        · exact (Segment.accepts_compile hof.2.1.1 _).1 hmethod
      · cases hacc
    · cases hacc
  · intro hall
    obtain ⟨service', method', s, t, hof', hparts, hs, ht⟩ := hall
    obtain ⟨rfl, rfl⟩ := hof.unique hof'
    have hslash : (t.toList.contains '/') = false := by simpa using hparts.2.1
    unfold accepts
    simp only [hparts.toList_eq, splitSlash?_append hparts.1, hslash]
    rw [Bool.and_eq_true, Bool.and_eq_true, String.ofList_toList, String.ofList_toList]
    exact ⟨⟨rfl, (Segment.accepts_compile hof.1.1 s).2 hs⟩, (Segment.accepts_compile hof.2.1.1 t).2 ht⟩

/-- There are only stars in a segment. -/
def OnlyStars (segment : String) : Prop := ∀ c ∈ segment.toList, c = '*'

/-- A text has two parts and one of them is empty; there the pattern has only
stars, and its other segment describes the other part. -/
def FillsGap (raw text : String) : Prop :=
  ∃ service method s t, IsOf raw service method ∧ TwoParts text s t
    ∧ (s = "" ∧ OnlyStars service ∧ Wildcard '*' method.toList t.toList
      ∨ t = "" ∧ OnlyStars method ∧ Wildcard '*' service.toList s.toList)

/-- A pattern takes a text that names no method just where its stars stand
for an empty part of it. -/
theorem accepts_malformed_iff {raw : String} {p : Pattern} (h : compile raw = .ok p) {text : String}
    (hbad : ∀ name, MethodName.parse text ≠ .ok name) : p.accepts text = true ↔ FillsGap raw text := by
  rw [accepts_iff h]
  constructor
  · intro hall
    obtain ⟨service, method, s, t, hof, hparts, hs, ht⟩ := hall
    refine ⟨service, method, s, t, hof, hparts, ?_⟩
    rcases hparts.eq_empty_or hbad with rfl | rfl
    · exact .inl ⟨rfl, Wildcard.empty_iff.1 hs, ht⟩
    · exact .inr ⟨rfl, Wildcard.empty_iff.1 ht, hs⟩
  · intro hall
    obtain ⟨service, method, s, t, hof, hparts, ⟨rfl, hstars, ht⟩ | ⟨rfl, hstars, hs⟩⟩ := hall
    · exact ⟨service, method, "", t, hof, hparts, Wildcard.empty_iff.2 hstars, ht⟩
    · exact ⟨service, method, s, "", hof, hparts, hs, Wildcard.empty_iff.2 hstars⟩

end Pattern

/-! ## §3. What a policy allows. -/

namespace AccessPolicy

/-- A consumer's call is allowed where it has a name and one of its patterns
takes the method. -/
theorem exists_allow_iff (p : AccessPolicy) (consumer method : String) :
    (∃ rule, p.authorize consumer method = .allow rule)
      ↔ consumer ≠ "" ∧ ∃ patterns, p.rules.lookup consumer = some patterns
          ∧ ∃ pattern ∈ patterns, pattern.accepts method = true := by
  unfold authorize
  by_cases hc : consumer = ""
  · simp [hc]
  · rw [if_neg hc]
    cases p.rules.lookup consumer with
    | none => simp
    | some patterns =>
      cases hfind : patterns.findIdx? (·.accepts method) with
      | none =>
        have hnone := List.findIdx?_eq_none_iff.1 hfind
        simpa [hfind, hc] using hnone
      | some rule =>
        obtain ⟨hlt, hacc, -⟩ := List.findIdx?_eq_some_iff_getElem.1 hfind
        simp only [hfind]
        exact iff_of_true ⟨rule, rfl⟩ ⟨hc, patterns, rfl, patterns[rule], List.getElem_mem hlt, hacc⟩

/-- What is not allowed is denied. -/
theorem exists_deny_iff (p : AccessPolicy) (consumer method : String) :
    (∃ reason, p.authorize consumer method = .deny reason)
      ↔ ¬∃ rule, p.authorize consumer method = .allow rule := by
  cases p.authorize consumer method with
  | allow rule => simp
  | deny reason => simp

/-- **Only stars in front of an empty part let a text pass that names no
method.**  Take a text that is not the name of a method.  A compiled pattern
takes it just where the text has two parts, one of them is empty, and the
pattern has only stars there; and whatever the table, and in whatever order
it was compiled, every consumer is denied the text unless one of its own
patterns takes it in that way. -/
theorem allows_malformed_iff_gap (text : String) (hbad : ∀ name, MethodName.parse text ≠ .ok name) :
    (∀ raw pattern, Pattern.compile raw = .ok pattern →
        (pattern.accepts text = true ↔ Pattern.FillsGap raw text))
      ∧ ∀ (table : Dict (List String)) (order : AccessTable) (p : AccessPolicy),
          order.Perm table.entries → compile order = .ok p → ∀ consumer,
            ((∃ reason, p.authorize consumer text = .deny reason)
              ↔ ¬(consumer ≠ "" ∧ ∃ raws, table.get? consumer = some raws
                  ∧ ∃ raw ∈ raws, Pattern.FillsGap raw text)) := by
  refine ⟨fun raw pattern hpattern => Pattern.accepts_malformed_iff hpattern hbad, ?_⟩
  intro table order p hperm hp consumer
  rw [exists_deny_iff, exists_allow_iff]
  refine not_congr (and_congr_right fun _ => ?_)
  have hlook := lookup_compile hp consumer
  rw [Dict.lookup_perm hperm] at hlook
  constructor
  · intro hall
    obtain ⟨patterns, hpatterns, pattern, hmem, hacc⟩ := hall
    rw [hpatterns, Option.map_some] at hlook
    obtain ⟨raws, hraws, hmap⟩ := Option.map_eq_some_iff.1 hlook
    -- the pattern was compiled from one of the consumer's texts
    have hcompiled : Except.ok pattern ∈ raws.map Pattern.compile := by
      rw [hmap]
      exact List.mem_map_of_mem hmem
    obtain ⟨raw, hraw, hof⟩ := List.mem_map.1 hcompiled
    exact ⟨raws, hraws, raw, hraw, (Pattern.accepts_malformed_iff hof hbad).1 hacc⟩
  · intro hall
    obtain ⟨raws, hraws, raw, hraw, hgap⟩ := hall
    rw [hraws, Option.map_some] at hlook
    obtain ⟨patterns, hpatterns, hmap⟩ := Option.map_eq_some_iff.1 hlook.symm
    have hcompiled : Pattern.compile raw ∈ patterns.map (Except.ok (ε := Failure)) := by
      rw [hmap]
      exact List.mem_map_of_mem hraw
    obtain ⟨pattern, hmem, hof⟩ := List.mem_map.1 hcompiled
    exact ⟨patterns, hpatterns, pattern, hmem, (Pattern.accepts_malformed_iff hof.symm hbad).2 hgap⟩

/-- A text without a method is no name, and a star in front of another part
of it does not let it pass. -/
theorem missing_method_is_denied : (∀ name, MethodName.parse "/a/" ≠ .ok name)
    ∧ ∃ p, compile [("c", ["/*/b"])] = .ok p ∧ ∃ reason, p.authorize "c" "/a/" = .deny reason := by
  have hbad : ∀ name, MethodName.parse "/a/" ≠ .ok name := nofun
  refine ⟨hbad, _, rfl, ?_⟩
  let table : Dict (List String) := ⟨[("c", ["/*/b"])], List.pairwise_singleton _ _⟩
  have hdeny := (allows_malformed_iff_gap "/a/" hbad).2 table _ _ (List.Perm.refl _) rfl "c"
  refine hdeny.2 ?_
  rintro ⟨-, raws, hraws, raw, hraw, service, method, s, t, hof, hparts, hgap⟩
  obtain rfl : ["/*/b"] = raws := Option.some.inj hraws
  obtain rfl := List.mem_singleton.1 hraw
  have hpattern : Pattern.IsOf "/*/b" "*" "b" := ⟨⟨by decide, by decide⟩, ⟨by decide, by decide⟩, rfl⟩
  have htext : TwoParts "/a/" "a" "" := ⟨by decide, by decide, rfl⟩
  obtain ⟨rfl, rfl⟩ := hof.unique hpattern
  obtain ⟨rfl, rfl⟩ := hparts.unique htext
  rcases hgap with ⟨hempty, -⟩ | ⟨-, hstars, -⟩
  · exact absurd hempty (by decide)
  · exact absurd (hstars 'b' (by decide)) (by decide)

/-- Two slashes name no method, and yet stars take them and a policy allows
them. -/
theorem stars_allow_malformed : (∀ name, MethodName.parse "//" ≠ .ok name)
    ∧ (∃ pattern, Pattern.compile "/*/*" = .ok pattern ∧ pattern.accepts "//" = true)
    ∧ ∃ p, compile [("c", ["/*/*"])] = .ok p ∧ p.authorize "c" "//" = .allow 0 :=
  ⟨nofun, ⟨_, rfl, rfl⟩, _, rfl, rfl⟩

end AccessPolicy

end CallGateway

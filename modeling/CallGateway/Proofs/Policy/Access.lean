/-
  CallGateway.Proofs.Policy.Access
  ────────────────────────────────
  **THE VERDICT, READ OFF THE TABLE.**

  `Gives table consumer name` is the verdict on a call as the owner of the
  table means it: the patterns as they are written, wildcards over
  characters, the first pattern that describes the method.  A compiled
  policy reaches just that verdict, in whatever order the consumers of the
  table were gone through, and a table can be compiled just where each of
  its patterns is well-formed (`compile_reaches_table_verdict`).
-/
import CallGateway.Policy.Access
import CallGateway.Proofs.Dict
import CallGateway.Proofs.MethodName
import CallGateway.Proofs.Outcome
import CallGateway.Proofs.Policy.Segment

namespace CallGateway

/-! ## §1. The meaning of a table. -/

namespace Pattern

/-- A text is a pattern with these two segments. -/
def IsOf (raw service method : String) : Prop :=
  IsSegment service ∧ IsSegment method ∧ raw = "/" ++ service ++ "/" ++ method

/-- A pattern, as it is written, describes the name of a method: segment by
segment, a star for any run of characters. -/
def Describes (raw : String) (name : MethodName) : Prop :=
  ∃ service method, IsOf raw service method
    ∧ Wildcard '*' service.toList name.service.toList
    ∧ Wildcard '*' method.toList name.method.toList

end Pattern

/-- The verdict that a table gives on a call of a method by a consumer. -/
inductive Gives (table : Dict (List String)) (consumer : String) (name : MethodName) : Decision → Prop
  /-- A consumer without a name is unknown, even if the table has an entry
  for it. -/
  | nameless : consumer = "" → Gives table consumer name (.deny .unknownConsumer)
  -- So is one without an entry.
  | unlisted : table.get? consumer = none → Gives table consumer name (.deny .unknownConsumer)
  -- The first pattern that describes the method allows the call.
  | allowed {patterns : List String} {rule : Nat} {raw : String} :
      consumer ≠ "" → table.get? consumer = some patterns →
      patterns[rule]? = some raw → Pattern.Describes raw name →
      (∀ j raw', j < rule → patterns[j]? = some raw' → ¬Pattern.Describes raw' name) →
      Gives table consumer name (.allow rule)
  -- Where none of them describes it, the call is denied.
  | unmatched {patterns : List String} :
      consumer ≠ "" → table.get? consumer = some patterns →
      (∀ raw ∈ patterns, ¬Pattern.Describes raw name) →
      Gives table consumer name (.deny .methodNotAllowed)

/-- A table gives one verdict on a call. -/
theorem Gives.unique {table : Dict (List String)} {consumer : String} {name : MethodName} {d d' : Decision}
    (h : Gives table consumer name d) (h' : Gives table consumer name d') : d = d' := by
  cases h with
  | nameless hempty =>
    cases h' with
    | nameless => rfl
    | unlisted => rfl
    | allowed hne => exact absurd hempty hne
    | unmatched hne => exact absurd hempty hne
  | unlisted hnone =>
    cases h' with
    | nameless => rfl
    | unlisted => rfl
    | allowed _ hsome => cases hnone.symm.trans hsome
    | unmatched _ hsome => cases hnone.symm.trans hsome
  | @allowed _ rule _ hne hsome hraw hdesc hfirst =>
    cases h' with
    | nameless hempty => exact absurd hempty hne
    | unlisted hnone => cases hnone.symm.trans hsome
    | @allowed _ rule' _ _ hsome' hraw' hdesc' hfirst' =>
      cases hsome.symm.trans hsome'
      -- neither of the two places can come before the other
      have hle : ¬rule' < rule := fun hlt => hfirst _ _ hlt hraw' hdesc'
      have hge : ¬rule < rule' := fun hlt => hfirst' _ _ hlt hraw hdesc
      obtain rfl : rule = rule' := by omega
      rfl
    | unmatched _ hsome' hnone =>
      cases hsome.symm.trans hsome'
      exact absurd hdesc (hnone _ (List.mem_of_getElem? hraw))
  | unmatched hne hsome hnone =>
    cases h' with
    | nameless hempty => exact absurd hempty hne
    | unlisted hget => cases hget.symm.trans hsome
    | allowed _ hsome' hraw hdesc =>
      cases hsome.symm.trans hsome'
      exact absurd hdesc (hnone _ (List.mem_of_getElem? hraw))
    | unmatched => rfl

/-! ## §2. One pattern. -/

namespace Pattern

/-- A text has at most one pair of segments. -/
theorem IsOf.unique {raw s m s' m' : String} (h : IsOf raw s m) (h' : IsOf raw s' m') :
    s = s' ∧ m = m' := by
  have hfull : (MethodName.mk s m h.1 h.2.1).full = (MethodName.mk s' m' h'.1 h'.2.1).full :=
    h.2.2.symm.trans h'.2.2
  have heq := MethodName.full_inj hfull
  exact MethodName.mk.inj heq

/-- A text is compiled segment by segment. -/
theorem compile_eq_ok_iff {raw : String} {p : Pattern} :
    compile raw = .ok p
      ↔ ∃ service method, IsOf raw service method
          ∧ p = ⟨raw, .compile service, .compile method⟩ := by
  constructor
  · intro h
    unfold compile at h
    split at h
    · rename_i rest hrest
      split at h
      · rename_i s m hs
        split at h
        · cases h
        · rename_i hne
          simp only [not_or] at hne
          obtain ⟨hs0, hm0, hm⟩ := hne
          obtain ⟨rfl, hslash⟩ := splitSlash?_eq_some_iff.1 hs
          cases h
          refine ⟨String.ofList s, String.ofList m, ⟨MethodName.isSegment_ofList hs0 hslash,
            MethodName.isSegment_ofList hm0 hm, ?_⟩, rfl⟩
          rw [← String.toList_inj, hrest]
          simp
      · cases h
    · cases h
  · intro hall
    obtain ⟨service, method, ⟨hs, hm, rfl⟩, rfl⟩ := hall
    have hlist : ("/" ++ service ++ "/" ++ method).toList
        = '/' :: (service.toList ++ '/' :: method.toList) := by simp
    unfold compile
    simp only [hlist, splitSlash?_append hs.2]
    rw [if_neg (by simp [hs.toList_ne_nil, hm.toList_ne_nil, hm.2])]
    simp

/-- A text is a pattern where it has two segments. -/
theorem exists_compile_iff {raw : String} :
    (∃ p, compile raw = .ok p) ↔ ∃ service method, IsOf raw service method := by
  simp only [compile_eq_ok_iff]
  constructor
  · intro hall
    obtain ⟨_, s, m, h, -⟩ := hall
    exact ⟨s, m, h⟩
  · intro hall
    obtain ⟨s, m, h⟩ := hall
    exact ⟨_, s, m, h, rfl⟩

/-- **A compiled pattern takes the names that its text describes.** -/
theorem accepts_iff_describes {raw : String} {p : Pattern} (h : compile raw = .ok p)
    (name : MethodName) : p.accepts name.full = true ↔ Describes raw name := by
  obtain ⟨service, method, hof, rfl⟩ := compile_eq_ok_iff.1 h
  have hacc : accepts ⟨raw, .compile service, .compile method⟩ name.full
      = ((Segment.compile service).accepts name.service
          && (Segment.compile method).accepts name.method) := by
    have hslash : (name.method.toList.contains '/') = false := by
      simpa using name.method_segment.2
    unfold accepts
    simp only [MethodName.toList_full, splitSlash?_append name.service_segment.2, hslash]
    simp
  rw [hacc, Bool.and_eq_true, Segment.accepts_compile hof.1.1, Segment.accepts_compile hof.2.1.1]
  constructor
  · intro hall
    obtain ⟨hs, hm⟩ := hall
    exact ⟨service, method, hof, hs, hm⟩
  · intro hall
    obtain ⟨s, m, hof', hs, hm⟩ := hall
    obtain ⟨rfl, rfl⟩ := hof.unique hof'
    exact ⟨hs, hm⟩

end Pattern

/-! ## §3. The compiled table. -/

namespace AccessPolicy

/-- An entry is compiled just where its patterns are well-formed. -/
theorem compileEntry_eq_ok_iff {entry : String × List String} {rule : String × List Pattern} :
    compileEntry entry = .ok rule
      ↔ rule.1 = entry.1 ∧ entry.2.map Pattern.compile = rule.2.map .ok := by
  rw [← Outcome.mapM_eq_ok_iff]
  unfold compileEntry
  cases h : entry.2.mapM Pattern.compile with
  | error e => simp
  | ok patterns =>
    obtain ⟨consumer, patterns'⟩ := rule
    simp only [Except.ok.injEq, Prod.mk.injEq]
    exact ⟨fun h => ⟨h.1.symm, h.2⟩, fun h => ⟨h.1.symm, h.2⟩⟩

theorem compile_eq_ok_iff {table : AccessTable} {p : AccessPolicy} :
    compile table = .ok p ↔ table.map compileEntry = p.rules.map .ok := by
  rw [← Outcome.mapM_eq_ok_iff]
  unfold compile
  rw [Outcome.bind_eq_ok_iff]
  constructor
  · intro hall
    obtain ⟨rules, hrules, h⟩ := hall
    cases h
    exact hrules
  · intro h
    exact ⟨p.rules, h, rfl⟩

/-- A table is compiled just where each of its patterns is well-formed. -/
theorem exists_compile_iff {table : AccessTable} :
    (∃ p, compile table = .ok p)
      ↔ ∀ entry ∈ table, ∀ raw ∈ entry.2, ∃ service method, Pattern.IsOf raw service method := by
  have hentry : ∀ entry, (∃ rule, compileEntry entry = .ok rule)
      ↔ ∀ raw ∈ entry.2, ∃ service method, Pattern.IsOf raw service method := by
    intro entry
    simp only [← Pattern.exists_compile_iff, ← Outcome.exists_mapM_eq_ok_iff, compileEntry_eq_ok_iff,
      ← Outcome.mapM_eq_ok_iff]
    constructor
    · intro hall
      obtain ⟨rule, -, h⟩ := hall
      exact ⟨rule.2, h⟩
    · intro hall
      obtain ⟨patterns, h⟩ := hall
      exact ⟨(entry.1, patterns), rfl, h⟩
  simp only [← hentry, ← Outcome.exists_mapM_eq_ok_iff]
  unfold compile
  constructor
  · intro hall
    obtain ⟨p, h⟩ := hall
    obtain ⟨rules, h, -⟩ := Outcome.bind_eq_ok_iff.1 h
    exact ⟨rules, h⟩
  · intro hall
    obtain ⟨rules, h⟩ := hall
    exact ⟨⟨rules⟩, Outcome.bind_eq_ok_iff.2 ⟨rules, h, rfl⟩⟩

/-- The compiled patterns of a consumer are found where its patterns are. -/
theorem lookup_compile {table : AccessTable} {p : AccessPolicy} (h : compile table = .ok p)
    (consumer : String) :
    (table.lookup consumer).map (·.map Pattern.compile)
      = (p.rules.lookup consumer).map (·.map .ok) := by
  rw [compile_eq_ok_iff] at h
  generalize p.rules = rules at h
  induction table generalizing rules with
  | nil =>
    rw [List.map_eq_nil_iff.1 h.symm]
    rfl
  | cons entry table ih =>
    cases rules with
    | nil => cases h
    | cons rule rules =>
      obtain ⟨hentry, htable⟩ := List.cons.inj h
      obtain ⟨hname, hpatterns⟩ := compileEntry_eq_ok_iff.1 hentry
      rw [List.lookup_cons, List.lookup_cons, hname]
      by_cases hc : consumer = entry.1
      · subst hc
        simp [hpatterns]
      · rw [beq_false_of_ne hc]
        exact ih rules htable

/-- A list of patterns is compiled place by place. -/
theorem getElem?_compile {raws : List String} {patterns : List Pattern}
    (h : raws.map Pattern.compile = patterns.map .ok) (i : Nat) :
    (raws[i]?).map Pattern.compile = (patterns[i]?).map .ok := by
  rw [← List.getElem?_map, h, List.getElem?_map]

/-- The pattern at a place takes a name just where what is written there
describes it. -/
theorem accepts_at_iff {raws : List String} {patterns : List Pattern}
    (h : raws.map Pattern.compile = patterns.map .ok) (name : MethodName) (i : Nat) :
    (∃ p, patterns[i]? = some p ∧ p.accepts name.full = true)
      ↔ ∃ raw, raws[i]? = some raw ∧ Pattern.Describes raw name := by
  have hi := getElem?_compile h i
  cases hraw : raws[i]? with
  | none =>
    rw [hraw, Option.map_none] at hi
    rw [Option.map_eq_none_iff.1 hi.symm]
    simp
  | some raw =>
    rw [hraw, Option.map_some] at hi
    obtain ⟨p, hp, hok⟩ := Option.map_eq_some_iff.1 hi.symm
    rw [hp]
    simp [Pattern.accepts_iff_describes hok.symm]

/-- The first place whose pattern takes a name. -/
theorem findIdx?_accepts_eq_some_iff {raws : List String} {patterns : List Pattern}
    (h : raws.map Pattern.compile = patterns.map .ok) (name : MethodName) (rule : Nat) :
    patterns.findIdx? (·.accepts name.full) = some rule
      ↔ (∃ raw, raws[rule]? = some raw ∧ Pattern.Describes raw name)
          ∧ ∀ j raw, j < rule → raws[j]? = some raw → ¬Pattern.Describes raw name := by
  rw [List.findIdx?_eq_some_iff_getElem, ← accepts_at_iff h]
  constructor
  · intro ⟨hlt, hacc, hfirst⟩
    refine ⟨⟨patterns[rule], List.getElem?_eq_getElem hlt, hacc⟩, ?_⟩
    intro j raw hj hraw hdesc
    obtain ⟨p, hp, hacc'⟩ := (accepts_at_iff h name j).2 ⟨raw, hraw, hdesc⟩
    have hlt' : j < patterns.length := Nat.lt_trans hj hlt
    rw [List.getElem?_eq_getElem hlt', Option.some.injEq] at hp
    exact hfirst j hj (hp ▸ hacc')
  · intro ⟨⟨p, hp, hacc⟩, hfirst⟩
    obtain ⟨hlt, hget⟩ := List.getElem?_eq_some_iff.1 hp
    refine ⟨hlt, hget ▸ hacc, ?_⟩
    intro j hj hacc'
    have hlt' : j < patterns.length := Nat.lt_trans hj hlt
    obtain ⟨raw, hraw, hdesc⟩ :=
      (accepts_at_iff h name j).1 ⟨patterns[j], List.getElem?_eq_getElem hlt', hacc'⟩
    exact hfirst j raw hj hraw hdesc

/-- No pattern takes a name. -/
theorem findIdx?_accepts_eq_none_iff {raws : List String} {patterns : List Pattern}
    (h : raws.map Pattern.compile = patterns.map .ok) (name : MethodName) :
    patterns.findIdx? (·.accepts name.full) = none
      ↔ ∀ raw ∈ raws, ¬Pattern.Describes raw name := by
  rw [List.findIdx?_eq_none_iff]
  constructor
  · intro hnone raw hraw hdesc
    obtain ⟨i, hi⟩ := List.mem_iff_getElem?.1 hraw
    obtain ⟨p, hp, hacc⟩ := (accepts_at_iff h name i).2 ⟨raw, hi, hdesc⟩
    rw [hnone p (List.mem_of_getElem? hp)] at hacc
    cases hacc
  · intro hnone p hp
    obtain ⟨i, hi⟩ := List.mem_iff_getElem?.1 hp
    rw [Bool.eq_false_iff]
    intro hacc
    obtain ⟨raw, hraw, hdesc⟩ := (accepts_at_iff h name i).1 ⟨p, hi, hacc⟩
    exact hnone raw (List.mem_of_getElem? hraw) hdesc

/-! ## §4. The verdict. -/

/-- A compiled policy reaches a verdict that its table gives. -/
theorem gives_authorize {table : Dict (List String)} {order : AccessTable} (hperm : order.Perm table.entries)
    {p : AccessPolicy} (hp : compile order = .ok p) (consumer : String) (name : MethodName) :
    Gives table consumer name (p.authorize consumer name.full) := by
  unfold authorize
  by_cases hc : consumer = ""
  · rw [if_pos hc]
    exact .nameless hc
  · rw [if_neg hc]
    have hlook := lookup_compile hp consumer
    rw [Dict.lookup_perm hperm] at hlook
    cases hget : table.get? consumer with
    | none =>
      rw [hget, Option.map_none] at hlook
      rw [Option.map_eq_none_iff.1 hlook.symm]
      exact .unlisted hget
    | some raws =>
      rw [hget, Option.map_some] at hlook
      obtain ⟨patterns, hpatterns, hmap⟩ := Option.map_eq_some_iff.1 hlook.symm
      have hcompiled : raws.map Pattern.compile = patterns.map .ok := hmap.symm
      rw [hpatterns]
      cases hfind : patterns.findIdx? (·.accepts name.full) with
      | none =>
        simp only [hfind]
        exact .unmatched hc hget ((findIdx?_accepts_eq_none_iff hcompiled name).1 hfind)
      | some rule =>
        simp only [hfind]
        obtain ⟨⟨raw, hraw, hdesc⟩, hfirst⟩ := (findIdx?_accepts_eq_some_iff hcompiled name rule).1 hfind
        exact .allowed hc hget hraw hdesc hfirst

/-- A compiled policy reaches the verdict of its table. -/
theorem authorize_eq_iff {table : Dict (List String)} {order : AccessTable} (hperm : order.Perm table.entries)
    {p : AccessPolicy} (hp : compile order = .ok p) (consumer : String) (name : MethodName) (d : Decision) :
    p.authorize consumer name.full = d ↔ Gives table consumer name d := by
  have hgives := gives_authorize hperm hp consumer name
  constructor
  · intro h
    exact h ▸ hgives
  · exact hgives.unique

/-- A check lets pass what the verdict allows, and tells the reason of a
denial otherwise. -/
theorem check_eq_error_iff (p : AccessPolicy) (consumer method : String) (e : Failure) :
    p.check consumer method = .error e
      ↔ (p.authorize consumer method = .deny .unknownConsumer
            ∧ e = .unauthenticated "unknown consumer")
        ∨ (p.authorize consumer method = .deny .methodNotAllowed
            ∧ e = .permissionDenied "method not allowed for consumer") := by
  unfold check
  cases p.authorize consumer method with
  | allow rule => simp
  | deny reason =>
    cases reason
    · simp [DenyReason.failure, DenyReason.text, eq_comm]
    · simp [DenyReason.failure, DenyReason.text, eq_comm]

theorem check_eq_ok_iff (p : AccessPolicy) (consumer method : String) :
    p.check consumer method = .ok () ↔ ∃ rule, p.authorize consumer method = .allow rule := by
  unfold check
  cases p.authorize consumer method with
  | allow rule => simp
  | deny reason => simp

/-- **A policy is its table, as it is written.**  In whatever order the
entries are compiled, this succeeds just where every pattern has two
segments; and then the verdict on any method by any consumer is the one that
the table gives, and a check is that verdict. -/
theorem compile_reaches_table_verdict (table : Dict (List String)) (order : AccessTable)
    (hperm : order.Perm table.entries) :
    ((∃ p, compile order = .ok p)
        ↔ ∀ consumer patterns, table.get? consumer = some patterns →
            ∀ raw ∈ patterns, ∃ service method, Pattern.IsOf raw service method)
      ∧ ∀ p, compile order = .ok p → ∀ consumer text name, MethodName.parse text = .ok name →
          (∀ d, p.authorize consumer text = d ↔ Gives table consumer name d)
            ∧ (p.check consumer text = .ok () ↔ ∃ rule, p.authorize consumer text = .allow rule)
            ∧ ∀ e, p.check consumer text = .error e
                ↔ (p.authorize consumer text = .deny .unknownConsumer
                      ∧ e = .unauthenticated "unknown consumer")
                  ∨ (p.authorize consumer text = .deny .methodNotAllowed
                      ∧ e = .permissionDenied "method not allowed for consumer") := by
  constructor
  · rw [exists_compile_iff]
    constructor
    · intro h consumer patterns hget
      exact h (consumer, patterns) (hperm.mem_iff.2 (Dict.get?_eq_some_iff.1 hget))
    · intro h entry hentry
      exact h entry.1 entry.2 (Dict.get?_eq_some_iff.2 (hperm.mem_iff.1 hentry))
  · intro p hp consumer text name hname
    obtain rfl := MethodName.parse_eq_ok_iff.1 hname
    exact ⟨authorize_eq_iff hperm hp consumer name, check_eq_ok_iff p consumer _,
      check_eq_error_iff p consumer _⟩

/-- Two consumers, one of them nameless, compiled from the last entry on;
overlapping stars, a character of two bytes, and the second of two
patterns. -/
theorem second_pattern_allows :
    ∃ p, compile [("é", ["/t/*", "/*/é*é*"]), ("", ["/*/*"])] = .ok p
      ∧ p.authorize "é" "/s/éaé" = .allow 1
      ∧ p.check "" "/s/éaé" = .error (.unauthenticated "unknown consumer") := by
  let table : Dict (List String) :=
    ⟨[("", ["/*/*"]), ("é", ["/t/*", "/*/é*é*"])], List.pairwise_pair.2 (by decide)⟩
  let name : MethodName := ⟨"s", "éaé", ⟨by decide, by decide⟩, ⟨by decide, by decide⟩⟩
  have ⟨hiff, hverdict⟩ := compile_reaches_table_verdict table
    [("é", ["/t/*", "/*/é*é*"]), ("", ["/*/*"])] (List.Perm.swap _ _ _)
  have hseg : ∀ s : String, s ≠ "" → '/' ∉ s.toList → IsSegment s := fun s h hs => ⟨h, hs⟩
  have hfirst : Pattern.IsOf "/t/*" "t" "*" := ⟨hseg _ (by decide) (by decide), hseg _ (by decide) (by decide), rfl⟩
  have hsecond : Pattern.IsOf "/*/é*é*" "*" "é*é*" :=
    ⟨hseg _ (by decide) (by decide), hseg _ (by decide) (by decide), rfl⟩
  have hany : Pattern.IsOf "/*/*" "*" "*" := ⟨hseg _ (by decide) (by decide), hseg _ (by decide) (by decide), rfl⟩
  obtain ⟨p, hp⟩ := hiff.2 (by
    intro consumer patterns hget raw hraw
    have hmem := Dict.get?_eq_some_iff.1 hget
    simp only [table, List.mem_cons, Prod.mk.injEq, List.not_mem_nil, or_false] at hmem
    rcases hmem with ⟨-, rfl⟩ | ⟨-, rfl⟩
    · obtain rfl := List.mem_singleton.1 hraw
      exact ⟨_, _, hany⟩
    · rcases List.mem_cons.1 hraw with rfl | hraw
      · exact ⟨_, _, hfirst⟩
      · obtain rfl := List.mem_singleton.1 hraw
        exact ⟨_, _, hsecond⟩)
  refine ⟨p, hp, ?_, ?_⟩
  · refine ((hverdict p hp "é" "/s/éaé" name (by rfl)).1 (.allow 1)).2 ?_
    have hservice : Wildcard '*' "*".toList "s".toList := Wildcard.run ['s'] .done
    have hmethod : Wildcard '*' "é*é*".toList "éaé".toList :=
      .same (by decide) (.run ['a'] (.same (by decide) (.run [] .done)))
    refine .allowed (by decide) rfl rfl ⟨_, _, hsecond, hservice, hmethod⟩ ?_
    intro j raw hj hraw ⟨s, m, hof, hservice', _⟩
    obtain rfl : j = 0 := by omega
    obtain rfl : "/t/*" = raw := Option.some.inj hraw
    obtain ⟨rfl, rfl⟩ := hof.unique hfirst
    have hst := (Wildcard.literal_iff (by decide)).1 hservice'
    simp [name] at hst
  · obtain ⟨hd, -, herr⟩ := hverdict p hp "" "/s/éaé" name (by rfl)
    exact (herr _).2 (.inl ⟨(hd _).2 (.nameless rfl), rfl⟩)

end AccessPolicy

end CallGateway

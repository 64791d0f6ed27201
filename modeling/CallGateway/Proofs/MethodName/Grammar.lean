/-
  CallGateway.Proofs.MethodName.Grammar
  ─────────────────────────────────────
  **ONE GRAMMAR FOR NAMES AND PATTERNS.**

  A name is read, put together from its segments, and taken apart again, and
  a pattern is compiled.  All of these go by the same grammar: a slash, a
  segment, a slash, a segment.

  A segment that smuggles in a slash is found out by counting them.  The
  text made of two parts has two slashes of its own, and the full text of a
  name has no more than two (`count_slash_full`), so none is left for the
  parts (`parts_eq_of_full`).  As a name in one piece of text, its segments
  lie between bytes that are known from the length of the first one
  (`isSlice_full_iff`); what lies between two bytes is one text at most
  (`IsSlice.unique`).
-/
import CallGateway.Proofs.Policy.Malformed

namespace CallGateway

/-! ## §1. Parts of a text between two bytes. -/

/-- A text from one of its bytes up to another, both of them between two
characters. -/
def IsSlice (text : String) (first last : Nat) (part : String) : Prop :=
  ∃ before after, text = before ++ part ++ after
    ∧ before.utf8ByteSize = first ∧ (before ++ part).utf8ByteSize = last

/-- Two beginnings of a text that have as many bytes are the same. -/
theorem eq_of_append_eq {a b a' b' : String} (h : a ++ b = a' ++ b')
    (hsize : a.utf8ByteSize = a'.utf8ByteSize) : a = a' := by
  have hlist : a.toList ++ b.toList = a'.toList ++ b'.toList := by
    rw [← String.toList_append, ← String.toList_append, h]
  -- what the longer one has in excess has no bytes
  have hempty : ∀ {s t : String} {more : List Char}, s.toList = t.toList ++ more →
      s.utf8ByteSize = t.utf8ByteSize → s = t := by
    intro s t more hmore hst
    have hs : s = t ++ String.ofList more := by
      rw [← String.toList_inj, hmore, String.toList_append, String.toList_ofList]
    rw [hs, String.utf8ByteSize_append] at hst
    have hnone : String.ofList more = "" := String.utf8ByteSize_eq_zero_iff.1 (by omega)
    rw [hs, hnone, String.append_empty]
  rcases List.append_eq_append_iff.1 hlist with ⟨more, hmore, -⟩ | ⟨more, hmore, -⟩
  · exact (hempty hmore hsize.symm).symm
  · exact hempty hmore hsize

/-- There is one text at most between two bytes. -/
theorem IsSlice.unique {text part part' : String} {first last : Nat} (h : IsSlice text first last part)
    (h' : IsSlice text first last part') : part = part' := by
  obtain ⟨before, after, htext, hfirst, hlast⟩ := h
  obtain ⟨before', after', htext', hfirst', hlast'⟩ := h'
  have hlong : before ++ part = before' ++ part' :=
    eq_of_append_eq (htext.symm.trans htext') (hlast.trans hlast'.symm)
  obtain rfl : before = before' := eq_of_append_eq hlong (hfirst.trans hfirst'.symm)
  exact (String.append_right_inj before).1 hlong

/-! ## §2. Names. -/

namespace MethodName

/-- Where the slash between the two segments stands, counted in bytes. -/
def slashPlace (n : MethodName) : Nat := n.service.utf8ByteSize + 1

/-- **The segments of a name lie where they are said to lie** in its full
text, in front of the slash in the middle and behind it. -/
theorem isSlice_full_iff (n : MethodName) (part : String) :
    (IsSlice n.full 1 n.slashPlace part ↔ part = n.service)
      ∧ (IsSlice n.full (n.slashPlace + 1) n.full.utf8ByteSize part ↔ part = n.method) := by
  have hslash : ("/" : String).utf8ByteSize = 1 := by decide
  have hservice : IsSlice n.full 1 n.slashPlace n.service := by
    refine ⟨"/", "/" ++ n.method, ?_, hslash, ?_⟩
    · rw [full, String.append_assoc, String.append_assoc]
    · rw [slashPlace, String.utf8ByteSize_append, hslash]
      omega
  have hmethod : IsSlice n.full (n.slashPlace + 1) n.full.utf8ByteSize n.method := by
    refine ⟨"/" ++ n.service ++ "/", "", ?_, ?_, rfl⟩
    · rw [String.append_empty, full]
    · rw [slashPlace, String.utf8ByteSize_append, String.utf8ByteSize_append, hslash]
      omega
  constructor
  · exact ⟨fun h => h.unique hservice, fun h => h ▸ hservice⟩
  · exact ⟨fun h => h.unique hmethod, fun h => h ▸ hmethod⟩

/-- A name has the two slashes that hold it together and no more. -/
theorem count_slash_full (n : MethodName) : n.full.toList.count '/' = 2 := by
  rw [toList_full, List.count_cons, List.count_append, List.count_cons,
    List.count_eq_zero.2 n.service_segment.2, List.count_eq_zero.2 n.method_segment.2]
  rfl

/-- **No slash in a part can shift the cut.** Where two parts give the full
text of a name, they are its segments. -/
theorem parts_eq_of_full {s t : String} {n : MethodName} (h : "/" ++ s ++ "/" ++ t = n.full) :
    s = n.service ∧ t = n.method := by
  have hcount := n.count_slash_full
  have hlist : n.full.toList = '/' :: (s.toList ++ '/' :: t.toList) := by
    rw [← h]
    simp
  rw [hlist, List.count_cons_self, List.count_append, List.count_cons_self] at hcount
  have hs : '/' ∉ s.toList := List.count_eq_zero.1 (by omega)
  have ht : '/' ∉ t.toList := List.count_eq_zero.1 (by omega)
  exact TwoParts.unique ⟨hs, ht, h.symm⟩ ⟨n.service_segment.2, n.method_segment.2, rfl⟩

/-- A text is a name where the grammar says so. -/
theorem exists_parse_iff {text : String} :
    (∃ n, parse text = .ok n) ↔ ∃ s t, IsSegment s ∧ IsSegment t ∧ text = "/" ++ s ++ "/" ++ t := by
  simp only [parse_eq_ok_iff]
  constructor
  · intro hall
    obtain ⟨n, rfl⟩ := hall
    exact ⟨n.service, n.method, n.service_segment, n.method_segment, rfl⟩
  · intro hall
    obtain ⟨s, t, hs, ht, rfl⟩ := hall
    exact ⟨⟨s, t, hs, ht⟩, rfl⟩

/-- Two parts make a name just where they are its segments. -/
theorem ofParts_eq_ok_iff {s t : String} {n : MethodName} :
    ofParts s t = .ok n ↔ s = n.service ∧ t = n.method := by
  unfold ofParts
  rw [parse_eq_ok_iff]
  constructor
  · exact parts_eq_of_full
  · rintro ⟨rfl, rfl⟩
    rfl

end MethodName

/-! ## §3. Patterns. -/

namespace Pattern

/-- What is a name is a pattern, and the other way round. -/
theorem exists_compile_iff_parse {raw : String} :
    (∃ p, compile raw = .ok p) ↔ ∃ n, MethodName.parse raw = .ok n := by
  rw [exists_compile_iff, MethodName.exists_parse_iff]
  rfl

/-- **Without a star a pattern takes itself alone**, among all texts. -/
theorem accepts_literal_iff {raw : String} {p : Pattern} (h : compile raw = .ok p) (hstar : '*' ∉ raw.toList)
    (text : String) : p.accepts text = true ↔ text = raw := by
  obtain ⟨service, method, hof, -⟩ := compile_eq_ok_iff.1 h
  have hlist : raw.toList = '/' :: (service.toList ++ '/' :: method.toList) := by
    rw [hof.2.2]
    simp
  have hservice : '*' ∉ service.toList := by
    intro hmem
    refine hstar ?_
    rw [hlist]
    exact List.mem_cons_of_mem _ (List.mem_append_left _ hmem)
  have hmethod : '*' ∉ method.toList := by
    intro hmem
    refine hstar ?_
    rw [hlist]
    exact List.mem_cons_of_mem _ (List.mem_append_right _ (List.mem_cons_of_mem _ hmem))
  rw [accepts_iff h]
  constructor
  · intro hall
    obtain ⟨service', method', s, t, hof', hparts, hs, ht⟩ := hall
    obtain ⟨rfl, rfl⟩ := hof.unique hof'
    rw [Wildcard.literal_iff hservice, String.toList_inj] at hs
    rw [Wildcard.literal_iff hmethod, String.toList_inj] at ht
    rw [hparts.2.2, hs, ht, ← hof.2.2]
  · rintro rfl
    exact ⟨service, method, service, method, hof, ⟨hof.1.2, hof.2.1.2, hof.2.2⟩,
      (Wildcard.literal_iff hservice).2 rfl, (Wildcard.literal_iff hmethod).2 rfl⟩

end Pattern

/-! ## §4. One grammar. -/

namespace MethodName

/-- **Names and patterns follow one grammar.**

* A text is the name of a method just where it is a slash, a segment, a slash
  and a segment.  Then the name has that full text and these segments, which
  lie between the bytes where they are cut out, both of them between two
  characters; and put together again they make the same name.
* Two parts make a name just where both are segments, and the name has them as
  its segments.
* What can be compiled as a pattern is what is the name of a method.  A pattern
  without a star takes one text, which is itself. -/
theorem names_follow_one_grammar :
    (∀ text, (∃ n, parse text = .ok n) ↔ ∃ s t, IsSegment s ∧ IsSegment t ∧ text = "/" ++ s ++ "/" ++ t)
      ∧ (∀ s t, IsSegment s → IsSegment t → ∀ n, parse ("/" ++ s ++ "/" ++ t) = .ok n →
          n.full = "/" ++ s ++ "/" ++ t ∧ n.service = s ∧ n.method = t
            ∧ (∀ part, IsSlice n.full 1 n.slashPlace part ↔ part = s)
            ∧ (∀ part, IsSlice n.full (n.slashPlace + 1) n.full.utf8ByteSize part ↔ part = t)
            ∧ ofParts n.service n.method = .ok n)
      ∧ (∀ s t, (∃ n, ofParts s t = .ok n) ↔ IsSegment s ∧ IsSegment t)
      ∧ (∀ s t n, ofParts s t = .ok n → n.service = s ∧ n.method = t ∧ n.full = "/" ++ s ++ "/" ++ t)
      ∧ (∀ raw, (∃ p, Pattern.compile raw = .ok p) ↔ ∃ n, parse raw = .ok n)
      ∧ ∀ raw p, Pattern.compile raw = .ok p → '*' ∉ raw.toList → ∀ text, p.accepts text = true ↔ text = raw := by
  refine ⟨fun text => exists_parse_iff, fun s t hs ht n hn => ?_, fun s t => ?_, fun s t n hn => ?_,
    fun raw => Pattern.exists_compile_iff_parse, fun raw p hp hstar => Pattern.accepts_literal_iff hp hstar⟩
  · have hfull := parse_eq_ok_iff.1 hn
    obtain ⟨rfl, rfl⟩ := parts_eq_of_full hfull
    exact ⟨hfull.symm, rfl, rfl, fun part => (n.isSlice_full_iff part).1, fun part => (n.isSlice_full_iff part).2,
      ofParts_eq_ok_iff.2 ⟨rfl, rfl⟩⟩
  · simp only [ofParts_eq_ok_iff]
    constructor
    · rintro ⟨n, rfl, rfl⟩
      exact ⟨n.service_segment, n.method_segment⟩
    · rintro ⟨hs, ht⟩
      exact ⟨⟨s, t, hs, ht⟩, rfl, rfl⟩
  · obtain ⟨rfl, rfl⟩ := ofParts_eq_ok_iff.1 hn
    exact ⟨rfl, rfl, rfl⟩

/-- A name with a character of two bytes in its service, and a pattern with a
dot that stands for itself; a slash too many in one part is no name. -/
theorem accented_name_is_cut :
    (∃ n, parse "/é.b/ü" = .ok n ∧ n.service = "é.b" ∧ n.method = "ü" ∧ n.slashPlace = 5
        ∧ (∀ part, IsSlice n.full 1 5 part ↔ part = "é.b") ∧ ofParts "é.b" "ü" = .ok n)
      ∧ (∃ p, Pattern.compile "/é.b/ü" = .ok p ∧ p.accepts "/éxb/ü" = false)
      ∧ ∀ n, ofParts "é/b" "ü" ≠ .ok n := by
  obtain ⟨hparse, hread, hparts, -, hpattern, hliteral⟩ := names_follow_one_grammar
  have hs : IsSegment "é.b" := ⟨by decide, by decide⟩
  have ht : IsSegment "ü" := ⟨by decide, by decide⟩
  obtain ⟨n, hn⟩ := (hparse "/é.b/ü").2 ⟨"é.b", "ü", hs, ht, rfl⟩
  obtain ⟨p, hp⟩ := (hpattern "/é.b/ü").2 ⟨n, hn⟩
  obtain ⟨-, hservice, hmethod, hslice, -, hagain⟩ := hread "é.b" "ü" hs ht n hn
  have hplace : n.slashPlace = 5 := by
    rw [slashPlace, hservice]
    decide
  rw [hplace] at hslice
  rw [hservice, hmethod] at hagain
  refine ⟨⟨n, hn, hservice, hmethod, hplace, hslice, hagain⟩, ⟨p, hp, ?_⟩, fun n hn => ?_⟩
  · rw [Bool.eq_false_iff, ne_eq, hliteral _ p hp (by decide)]
    decide
  · have hsegment := ((hparts "é/b" "ü").1 ⟨n, hn⟩).1
    exact absurd hsegment.2 (by decide)

end MethodName

end CallGateway

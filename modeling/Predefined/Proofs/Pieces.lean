-- What a cut leaves of a text. Whatever has found the spans, all that is asked of them is that each
-- begins where the one before has ended, or later, and that the last one ends inside of the text.
-- Then pieces and spans make up the text in turn, in one way only, and of the pieces nothing gets
-- lost but the empty ones at the end.
import Mathlib.Data.List.DropRight
import Predefined.Text.Pieces

namespace Predefined.Text

/-! ## Spans in order -/

/-- Spans from `position` up to `last`, each where the one before has ended, or later. -/
inductive InOrder (last : Nat) : (position : Nat) → List Span → Prop
  | nil {position : Nat} : position ≤ last → InOrder last position []
  | cons {position : Nat} {m : Span} {ms : List Span} :
      position ≤ m.start → m.start ≤ m.stop → InOrder last m.stop ms →
      InOrder last position (m :: ms)

namespace InOrder

variable {last position : Nat} {ms : List Span}

theorem position_le (h : InOrder last position ms) : position ≤ last := by
  induction h with
  | nil hp => exact hp
  | cons hp hm _ ih => exact hp.trans (hm.trans ih)

theorem mono {position' : Nat} (h : InOrder last position ms) (hp : position' ≤ position) :
    InOrder last position' ms := by
  cases h with
  | nil hl => exact .nil (hp.trans hl)
  | cons hs hm hms => exact .cons (hp.trans hs) hm hms

theorem start_le_stop (h : InOrder last position ms) : ∀ m ∈ ms, m.start ≤ m.stop := by
  induction h with
  | nil _ => simp
  | cons _ hm _ ih => exact List.forall_mem_cons.mpr ⟨hm, ih⟩

theorem position_le_start (h : InOrder last position ms) : ∀ m ∈ ms, position ≤ m.start := by
  induction h with
  | nil _ => simp
  | cons hp hm _ ih =>
    exact List.forall_mem_cons.mpr ⟨hp, fun m hm' => hp.trans (hm.trans (ih m hm'))⟩

theorem filter (h : InOrder last position ms) (keep : Span → Bool) :
    InOrder last position (ms.filter keep) := by
  induction h with
  | nil hp => exact .nil hp
  | @cons position m ms hp hm _ ih =>
    rw [List.filter_cons]
    split
    · exact .cons hp hm ih
    · exact ih.mono (hp.trans hm)

end InOrder

/-- The spans that cut: all but an empty one where the text begins. -/
def cuts (ms : List Span) : List Span :=
  ms.filter fun m => ¬(m.start = 0 ∧ m.stop = 0)

theorem mem_cuts {ms : List Span} {m : Span} :
    m ∈ cuts ms ↔ m ∈ ms ∧ ¬(m.start = 0 ∧ m.stop = 0) := by
  simp only [cuts, List.mem_filter, decide_eq_true_eq]

theorem InOrder.filter_stop {last position : Nat} {ms : List Span}
    (h : InOrder last position ms) : ms.filter (·.stop ≠ 0) = cuts ms := by
  refine List.filter_congr fun m hm => ?_
  have hle := h.start_le_stop m hm
  simp only [decide_eq_decide]
  omega

/-! ## Pieces and spans in turn -/

theorem length_cut (position : Nat) (s : List Char) (ms : List Span) :
    (cut position s ms).length = ms.length + 1 := by
  induction ms generalizing position s with
  | nil => rfl
  | cons m ms ih => rw [cut, List.length_cons, ih, List.length_cons]

/-- A text that begins at `position` is made up of pieces and, between two of them, of what a span
covers. Each span stands where it says. -/
inductive Around : (position : Nat) → List Span → List (List Char) → List Char → Prop
  | last {position : Nat} {q : List Char} : Around position [] [q] q
  | before {position : Nat} {m : Span} {ms : List Span} {q w s : List Char}
      {qs : List (List Char)} :
      m.start = position + q.length → m.stop = m.start + w.length → Around m.stop ms qs s →
      Around position (m :: ms) (q :: qs) (q ++ w ++ s)

theorem around_cut {position : Nat} {ms : List Span} {s : List Char}
    (h : InOrder (position + s.length) position ms) : Around position ms (cut position s ms) s := by
  induction ms generalizing position s with
  | nil => exact .last
  | cons m ms ih =>
    obtain _ | ⟨hp, hm, hms⟩ := h
    have hl := hms.position_le
    have hs : s = s.take (m.start - position) ++
        (s.drop (m.start - position)).take (m.stop - m.start) ++ s.drop (m.stop - position) := by
      have hdrop : s.drop (m.stop - position) =
          (s.drop (m.start - position)).drop (m.stop - m.start) := by
        rw [List.drop_drop]
        congr 1
        omega
      rw [hdrop, List.append_assoc, List.take_append_drop, List.take_append_drop]
    have hrest : Around m.stop ms (cut m.stop (s.drop (m.stop - position)) ms)
        (s.drop (m.stop - position)) := by
      refine ih ?_
      rw [List.length_drop, show m.stop + (s.length - (m.stop - position)) = position + s.length
        by omega]
      exact hms
    rw [cut]
    conv => rhs; rw [hs]
    refine .before ?_ ?_ hrest
    · rw [List.length_take]
      omega
    · rw [List.length_take, List.length_drop]
      omega

/-- No other pieces fit around the spans. -/
theorem Around.eq_cut {position : Nat} {ms : List Span} {qs : List (List Char)} {s : List Char}
    (h : Around position ms qs s) : qs = cut position s ms := by
  induction h with
  | last => rfl
  | @before position m ms q w s qs hq hw _ ih =>
    rw [cut, show m.start - position = q.length by omega,
      show m.stop - position = (q ++ w).length by rw [List.length_append]; omega,
      List.drop_left, List.append_assoc, List.take_left, ← ih]

theorem around_iff {position : Nat} {ms : List Span} {qs : List (List Char)} {s : List Char}
    (h : InOrder (position + s.length) position ms) :
    Around position ms qs s ↔ qs = cut position s ms :=
  ⟨Around.eq_cut, fun hqs => hqs ▸ around_cut h⟩

/-! ## The slices that are taken -/

/-- What lies before each span and behind the last one. -/
def gaps (position last : Nat) : List Span → List Span
  | [] => [⟨position, last⟩]
  | m :: ms => ⟨position, m.start⟩ :: gaps m.stop last ms

theorem gaps_inRange {position last : Nat} {ms : List Span} (h : InOrder last position ms) :
    ∀ g ∈ gaps position last ms, g.start ≤ g.stop ∧ g.stop ≤ last := by
  induction h with
  | nil hp => simpa [gaps] using hp
  | cons hp hm hms ih =>
    exact List.forall_mem_cons.mpr ⟨⟨hp, hm.trans hms.position_le⟩, ih⟩

/-- The slices are taken out of the whole text, the rest is never copied. -/
theorem cut_eq_slices {position last : Nat} {ms : List Span} (h : InOrder last position ms)
    (s : List Char) (hs : s.length = last) :
    cut position (s.drop position) ms =
      (gaps position last ms).map fun g => s.extract g.start g.stop := by
  induction h with
  | nil _ => simp [cut, gaps, List.extract_eq_take_drop, List.take_of_length_le, hs]
  | @cons position m ms hp hm _ ih =>
    rw [cut, gaps, List.map_cons, List.drop_drop,
      show position + (m.stop - position) = m.stop by omega, ih, List.extract_eq_take_drop]

/-! ## The empty pieces at the end -/

theorem dropEmptyEnd_append (qs : List (List Char)) :
    ∃ n, qs = dropEmptyEnd qs ++ List.replicate n [] := by
  refine ⟨(qs.rtakeWhile List.isEmpty).length, ?_⟩
  have hend : qs.rtakeWhile List.isEmpty =
      List.replicate (qs.rtakeWhile List.isEmpty).length [] :=
    List.eq_replicate_of_mem fun q hq => List.isEmpty_iff.mp (List.mem_rtakeWhile_imp hq)
  rw [← hend]
  exact List.rdropWhile_append_rtakeWhile.symm

theorem dropEmptyEnd_getLast? (qs : List (List Char)) : (dropEmptyEnd qs).getLast? ≠ some [] := by
  intro hlast
  have hne : dropEmptyEnd qs ≠ [] := by
    intro hnil
    rw [hnil] at hlast
    cases hlast
  rw [List.getLast?_eq_some_getLast hne, Option.some.injEq] at hlast
  exact List.rdropWhile_last_not List.isEmpty qs hne (by rw [List.isEmpty_iff]; exact hlast)

theorem dropEmptyEnd_eq_nil (qs : List (List Char)) : dropEmptyEnd qs = [] ↔ ∀ q ∈ qs, q = [] := by
  simp [dropEmptyEnd]

theorem head?_of_dropEmptyEnd {qs : List (List Char)} {q : List Char}
    (h : (dropEmptyEnd qs).head? = some q) : qs.head? = some q := by
  obtain ⟨n, hqs⟩ := dropEmptyEnd_append qs
  rw [hqs, List.head?_append, h, Option.some_or]

/-! ## What a text is split into -/

/-- A text that is cut has the pieces `qs`, and `result` is what it is split into. -/
structure IsSplit (ms : List Span) (s : List Char) (qs result : List (List Char)) : Prop where
  /-- Every slice that is taken lies inside of the text. -/
  inRange : ∀ g ∈ gaps 0 s.length (cuts ms), g.start ≤ g.stop ∧ g.stop ≤ s.length
  slices : qs = (gaps 0 s.length (cuts ms)).map fun g => s.extract g.start g.stop
  /-- These pieces make up the text with the cuts between them, and no others do. -/
  around : ∀ ps, Around 0 (cuts ms) ps s ↔ ps = qs
  /-- Nothing is dropped but empty pieces at the end, -/
  dropped : ∃ n, qs = result ++ List.replicate n []
  /-- and none of those stays. -/
  ending : result.getLast? ≠ some []
  nothing : result = [] ↔ ∀ q ∈ qs, q = []
  beginning : result.head? = some [] → qs.head? = some []
  leading : qs.head? = some [] ↔ ∃ m ∈ ms, m.start = 0 ∧ m.start < m.stop

section

variable {ms : List Span} {s : List Char}

theorem pieces_eq (h : InOrder s.length 0 ms) :
    pieces ms s = if cuts ms = [] then [s] else dropEmptyEnd (cut 0 s (cuts ms)) := by
  unfold pieces
  rw [h.filter_stop]
  cases cuts ms <;> rfl

theorem pieces_of_no_cuts (h : InOrder s.length 0 ms) (hc : cuts ms = []) : pieces ms s = [s] := by
  rw [pieces_eq h, if_pos hc]

/-- The first piece is empty where something that is not empty is cut out in front of it. -/
theorem head?_cut (h : InOrder s.length 0 ms) (hc : cuts ms ≠ []) :
    (cut 0 s (cuts ms)).head? = some [] ↔ ∃ m ∈ ms, m.start = 0 ∧ m.start < m.stop := by
  have hcuts : InOrder s.length 0 (cuts ms) := h.filter _
  obtain ⟨m, rest, hms⟩ := List.exists_cons_of_ne_nil hc
  have hm : m ∈ ms ∧ ¬(m.start = 0 ∧ m.stop = 0) := mem_cuts.mp (hms ▸ List.mem_cons_self)
  rw [hms] at hcuts ⊢
  obtain _ | ⟨_, hle, hrest⟩ := hcuts
  have hl := hrest.position_le
  rw [cut, List.head?_cons, Option.some.injEq, List.take_eq_nil_iff, Nat.sub_zero]
  constructor
  · rintro (h0 | rfl)
    · exact ⟨m, hm.1, h0, by omega⟩
    · rw [List.length_nil] at hl
      omega
  · rintro ⟨m', hm', h0, hlt⟩
    left
    -- The first cut begins where any other one does, or before.
    have hmem : m' ∈ m :: rest := hms ▸ mem_cuts.mpr ⟨hm', by omega⟩
    rcases List.mem_cons.mp hmem with rfl | hbehind
    · exact h0
    · have := hrest.position_le_start m' hbehind
      omega

theorem isSplit_pieces (h : InOrder s.length 0 ms) (hc : cuts ms ≠ []) :
    IsSplit ms s (cut 0 s (cuts ms)) (pieces ms s) := by
  have hcuts : InOrder s.length 0 (cuts ms) := h.filter _
  rw [pieces_eq h, if_neg hc]
  exact {
    inRange := gaps_inRange hcuts
    slices := cut_eq_slices hcuts s rfl
    around := fun ps => around_iff (by rwa [Nat.zero_add])
    dropped := dropEmptyEnd_append _
    ending := dropEmptyEnd_getLast? _
    nothing := dropEmptyEnd_eq_nil _
    beginning := head?_of_dropEmptyEnd
    leading := head?_cut h hc }

end

end Predefined.Text

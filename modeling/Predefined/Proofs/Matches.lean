-- Matches stand in order, whatever the pattern is. A thread keeps the place where its match starts,
-- and the places of a run lie between the place where the run has begun and the place that it has
-- come to; a run behind a match begins where that match has ended. So a text is split around
-- matches as it is split around any spans in order.
import Predefined.Proofs.Pieces
import Predefined.Value.Split

namespace Predefined.Pattern

open Text (Span InOrder)

/-- A text ends where its rest behind one character does. -/
theorem add_length_cons (position : Nat) (c : Char) (rest : List Char) :
    position + (c :: rest).length = position + 1 + rest.length := by
  rw [List.length_cons]
  omega

/-! ## Where threads start -/

/-- The matches of all threads start at places with a property. -/
def Front.StartIn (P : Nat → Prop) (f : Front) : Prop :=
  ∀ t ∈ f.threads, P t.start

namespace Program

section

variable {P : Nat → Prop} {code : Code}

theorem startIn_nothing (P : Nat → Prop) (marks : Array Nat) : (Front.mk marks #[]).StartIn P := by
  simp [Front.StartIn]

theorem startIn_follow {before after : Option Char} {mark start : Nat} (hstart : P start)
    (bound next : Nat) {f : Front} (hf : f.StartIn P) :
    (follow code before after mark start bound next f).StartIn P := by
  induction bound generalizing next f with
  | zero => exact hf
  | succ bound ih =>
    obtain ⟨marks, threads⟩ := f
    rw [follow]
    split
    · exact hf
    · have hmarked : (Front.mk (marks.setIfInBounds next mark) threads).StartIn P := hf
      simp only
      split
      · exact ih _ (ih _ hmarked)
      · split
        · exact ih _ hmarked
        · exact hf
      · intro t ht
        rcases Array.mem_push.mp ht with ht | rfl
        · exact hf t ht
        · exact hstart
      · exact hf

theorem startIn_step {c after : Option Char} {mark : Nat} {ts : List Thread} {f : Front}
    (hts : ∀ t ∈ ts, P t.start) (hf : f.StartIn P) :
    (∀ start ∈ (step code c after mark ts f).1, P start) ∧
      (step code c after mark ts f).2.StartIn P := by
  induction ts generalizing f with
  | nil => exact ⟨by simp [step], hf⟩
  | cons t ts ih =>
    obtain ⟨ht, hts⟩ := List.forall_mem_cons.mp hts
    unfold step
    split
    · exact ⟨by simpa using ht, hf⟩
    · split
      · exact ih hts (startIn_follow ht _ _ hf)
      · exact ih hts hf
    · exact ih hts hf

end

/-! ## Where a match stands -/

/-- A place that a run from `low` has come by when it has come to `position`. -/
def Within (low position start : Nat) : Prop :=
  low ≤ start ∧ start ≤ position

theorem Within.succ {low position start : Nat} (h : Within low position start) :
    Within low (position + 1) start :=
  ⟨h.1, h.2.trans (Nat.le_succ _)⟩

/-- A match that a run from `low` has found by then. -/
def Stands (low position : Nat) (m : Span) : Prop :=
  low ≤ m.start ∧ m.start ≤ m.stop ∧ m.stop ≤ position

theorem Stands.mono {low position position' : Nat} {m : Span} (h : Stands low position m)
    (hp : position ≤ position') : Stands low position' m :=
  ⟨h.1, h.2.1, h.2.2.trans hp⟩

section

variable {p : Program} {low position : Nat} {before : Option Char} {found : Option Span}
  {f : Front}

/-- The threads at a place: as long as there is no match, a new one starts. -/
def enter (p : Program) (before after : Option Char) (position : Nat) (found : Option Span)
    (f : Front) : Front :=
  if found.isNone then follow p.code before after (position + 1) position (p.code.size + 1) p.start f
  else f

/-- The match that is preferred after one more step. -/
def prefer (position : Nat) (found : Option Span) : (start : Option Nat) → Option Span
  | some start => some ⟨start, position⟩
  | none => found

theorem run_nil : run p before position found [] f =
    let f := enter p before none position found f
    if f.threads.isEmpty && found.isSome then found
    else prefer position found (step p.code none none 0 f.threads.toList ⟨#[], #[]⟩).1 := by
  unfold run
  change (if (enter p before none position found f).threads.isEmpty && found.isSome then found
    else _) = _
  simp only
  split
  · rfl
  · rw [enter, List.head?_nil]
    generalize step p.code none none 0 _ _ = next
    obtain ⟨_ | start, f⟩ := next
    · rfl
    · rfl

theorem run_cons {c : Char} {rest : List Char} : run p before position found (c :: rest) f =
    let f := enter p before (some c) position found f
    if f.threads.isEmpty && found.isSome then found
    else
      let (start, f) :=
        step p.code (some c) rest.head? (position + 2) f.threads.toList ⟨f.marks, #[]⟩
      run p (some c) (position + 1) (prefer position found start) rest f :=
  rfl

theorem startIn_enter {after : Option Char} (hlow : low ≤ position)
    (hf : f.StartIn (Within low position)) :
    (enter p before after position found f).StartIn (Within low position) := by
  unfold enter
  split
  · exact startIn_follow ⟨hlow, le_rfl⟩ _ _ hf
  · exact hf

theorem stands_prefer {start : Option Nat} (hfound : ∀ m ∈ found, Stands low position m)
    (hstart : ∀ i ∈ start, Within low position i) :
    ∀ m ∈ prefer position found start, Stands low position m := by
  cases start with
  | none => exact hfound
  | some i =>
    rintro m ⟨⟩
    obtain ⟨hi, hi'⟩ := hstart i rfl
    exact ⟨hi, hi', le_rfl⟩

theorem stands_run {rest : List Char} (hlow : low ≤ position)
    (hfound : ∀ m ∈ found, Stands low position m) (hf : f.StartIn (Within low position)) :
    ∀ m ∈ run p before position found rest f, Stands low (position + rest.length) m := by
  induction rest generalizing before position found f with
  | nil =>
    have hf' : (enter p before none position found f).StartIn (Within low position) :=
      startIn_enter hlow hf
    rw [run_nil]
    simp only
    split
    · exact hfound
    · exact stands_prefer hfound
        (startIn_step (fun t ht => hf' t (Array.mem_toList_iff.mp ht)) (startIn_nothing _ _)).1
  | cons c rest ih =>
    have hf' : (enter p before (some c) position found f).StartIn (Within low position) :=
      startIn_enter hlow hf
    rw [run_cons]
    simp only
    split
    · exact fun m hm => (hfound m hm).mono (Nat.le_add_right _ _)
    · obtain ⟨hstart, hthreads⟩ :=
        startIn_step (fun t ht => hf' t (Array.mem_toList_iff.mp ht)) (startIn_nothing _ _)
      rw [add_length_cons]
      refine ih (hlow.trans (Nat.le_succ _)) (fun m hm => ?_) fun t ht => (hthreads t ht).succ
      exact (stands_prefer hfound hstart m hm).mono (Nat.le_succ _)

theorem stands_find {rest : List Char} :
    ∀ m ∈ p.find? before position rest, Stands position (position + rest.length) m :=
  stands_run le_rfl (by simp) (startIn_nothing _ _)

/-! ## All matches -/

theorem advance_snd (before : Option Char) (count : Nat) (rest : List Char) :
    (advance before count rest).2 = rest.drop count := by
  induction count generalizing before rest with
  | zero => rfl
  | succ count ih =>
    cases rest with
    | nil => rfl
    | cons c rest => exact ih (some c) rest

theorem inOrder_spansFrom (bound : Nat) {behindMatch : Bool} {rest : List Char} :
    InOrder (position + rest.length) position
      (spansFrom p before position behindMatch bound rest) := by
  induction bound generalizing before position behindMatch rest with
  | zero => exact .nil (Nat.le_add_right _ _)
  | succ bound ih =>
    unfold spansFrom
    split
    · exact .nil (Nat.le_add_right _ _)
    · rename_i m hm
      obtain ⟨hstart, hstop, hlast⟩ := stands_find m hm
      split
      · cases rest with
        | nil => exact .nil (Nat.le_add_right _ _)
        | cons c rest =>
          rw [add_length_cons]
          exact ih.mono (Nat.le_succ _)
      · refine .cons hstart hstop ?_
        have hrest : position + rest.length =
            m.stop + (advance before (m.stop - position) rest).2.length := by
          rw [advance_snd, List.length_drop]
          omega
        rw [hrest]
        exact ih

theorem inOrder_spans (s : List Char) : InOrder s.length 0 (p.spans s) := by
  rw [← Nat.zero_add s.length]
  exact inOrder_spansFrom _

end

end Program

/-! ## All patterns -/

theorem inOrder_occurrences {part : List Char} {position skip : Nat} {s : List Char}
    (hskip : skip ≤ s.length) :
    InOrder (position + s.length) (position + skip) (occurrences part position skip s) := by
  induction s generalizing position skip with
  | nil =>
    obtain rfl : skip = 0 := by simpa using hskip
    rw [occurrences]
    split
    · exact .cons le_rfl le_rfl (.nil le_rfl)
    · exact .nil le_rfl
  | cons c rest ih =>
    rw [List.length_cons] at hskip
    rw [add_length_cons, occurrences]
    split
    · exact (ih (by omega)).mono (by omega)
    · split
      · rename_i hpart
        have hlen := (List.isPrefixOf_iff_prefix.mp hpart).length_le
        rw [List.length_cons] at hlen
        exact .cons (by simp only; omega) (Nat.le_add_right _ _)
          ((ih (by omega)).mono (by simp only; omega))
      · exact (ih (Nat.zero_le _)).mono (by omega)

theorem inOrder_patternSpans (p : Pattern) (s : List Char) : InOrder s.length 0 (p.spans s) := by
  cases p with
  | literal part =>
    rw [← Nat.zero_add s.length]
    exact inOrder_occurrences (Nat.zero_le _)
  | regular p => exact p.inOrder_spans s

end Predefined.Pattern

namespace Predefined

open Text

theorem split_of_compiled {s p : String} {compiled : Pattern}
    (hp : Pattern.compile p = .ok compiled) :
    Value.split (.string s) (.string p) =
      .ok (.array ((pieces (compiled.spans s.toList) s.toList).map
        fun piece => .string (String.ofList piece))) := by
  rw [Value.split, hp]

/-- Splitting cuts a text around the matches of a pattern, and around nothing else. -/
theorem split_cuts_a_text_around_its_matches {s p : String} {compiled : Pattern}
    (hp : Pattern.compile p = .ok compiled) :
    Value.split (.string s) (.string p) =
        .ok (.array ((pieces (compiled.spans s.toList) s.toList).map
          fun piece => .string (String.ofList piece))) ∧
      InOrder s.toList.length 0 (compiled.spans s.toList) ∧
      ∀ ms, InOrder s.toList.length 0 ms →
        (cuts ms = [] → pieces ms s.toList = [s.toList]) ∧
          (cuts ms ≠ [] → ∃ qs, IsSplit ms s.toList qs (pieces ms s.toList)) :=
  ⟨split_of_compiled hp, compiled.inOrder_patternSpans s.toList, fun _ h =>
    ⟨pieces_of_no_cuts h, fun hc => ⟨_, isSplit_pieces h hc⟩⟩⟩

/-- The pattern matches letters, and nothing between two other letters; what it matches at the end
leaves no piece behind. -/
theorem a_text_is_cut_around_letters_and_around_nothing :
    ∃ compiled, Pattern.compile "x*" = .ok compiled ∧
      cuts (compiled.spans "xabxx".toList) = [⟨0, 1⟩, ⟨2, 2⟩, ⟨3, 5⟩] ∧
      Value.split (.string "xabxx") (.string "x*") =
        .ok (.array [.string "", .string "a", .string "b"]) ∧
      ∃ qs, IsSplit (compiled.spans "xabxx".toList) "xabxx".toList qs
        ["".toList, "a".toList, "b".toList] := by
  obtain ⟨compiled, hc⟩ : ∃ compiled, Pattern.compile "x*" = .ok compiled := ⟨_, rfl⟩
  obtain ⟨hsplit, horder, hcut⟩ := split_cuts_a_text_around_its_matches (s := "xabxx") hc
  have hspans : compiled.spans "xabxx".toList = [⟨0, 1⟩, ⟨2, 2⟩, ⟨3, 5⟩] := by
    cases hc
    rfl
  refine ⟨compiled, hc, ?_⟩
  rw [hspans] at hsplit horder ⊢
  exact ⟨rfl, hsplit, (hcut _ horder).2 (by decide)⟩

end Predefined

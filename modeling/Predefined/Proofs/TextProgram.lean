-- The program that spells a text finds the occurrences of the text. A thread of it stands for a
-- place where the text may have begun, and for the rest of the text that is still to be read;
-- threads that have begun earlier have less to read. So the first thread to be done is the first
-- one of all, and its match is the occurrence furthest to the left.
import Predefined.Proofs.Matches
import Predefined.Proofs.Occurrences

namespace Predefined.Pattern

open Text (Span Leftmost)

/-! ## Code -/

/-- The instruction that reads the first character of a rest of the text stands at the length of the
rest, and the one that accepts stands where nothing is left. -/
structure Spells (code : Code) (part : List Char) : Prop where
  size : code.size = part.length + 1
  accept : code[0]? = some .accept
  read : ∀ c rest, c :: rest <:+ part →
    code[rest.length + 1]? = some (.read #[(c.toNat, c.toNat)] rest.length)

theorem Spells.push {code : Code} {part : List Char} (h : Spells code part) (c : Char) :
    Spells (code.push (.read #[(c.toNat, c.toNat)] part.length)) (c :: part) where
  size := by rw [Array.size_push, h.size, List.length_cons]
  accept := by
    rw [Array.getElem?_push_lt (by rw [h.size]; exact Nat.succ_pos _)]
    exact Array.getElem?_eq_getElem _ ▸ h.accept
  read := by
    intro d rest hrest
    rcases List.suffix_cons_iff.mp hrest with heq | hsuffix
    · obtain ⟨rfl, rfl⟩ := List.cons.inj heq
      rw [← h.size, Array.getElem?_push_size]
    · have hlen := hsuffix.length_le
      have hlt : rest.length + 1 < code.size := by
        rw [List.length_cons] at hlen
        rw [h.size]
        omega
      rw [Array.getElem?_push_lt hlt]
      exact Array.getElem?_eq_getElem _ ▸ h.read d rest hsuffix

theorem Spells.spell {code : Code} {part : List Char} (h : Spells code part) (cs : List Char) :
    (Program.spell cs part.length code).1 = (cs.reverse ++ part).length ∧
      Spells (Program.spell cs part.length code).2 (cs.reverse ++ part) := by
  induction cs generalizing code part with
  | nil => exact ⟨rfl, h⟩
  | cons c cs ih =>
    have hnext : Program.spell (c :: cs) part.length code =
        Program.spell cs (c :: part).length
          (code.push (.read #[(c.toNat, c.toNat)] part.length)) := by
      rw [Program.spell, Program.emit, h.size, List.length_cons]
    rw [hnext, List.reverse_cons, List.append_assoc]
    exact ih (h.push c)

/-- The regular expression of a text. -/
def plain (part : List Char) : Regular :=
  if part.isEmpty then .empty else .text part

theorem spells_plain (part : List Char) :
    (Program.ofRegular (plain part)).start = part.length ∧
      Spells (Program.ofRegular (plain part)).code part := by
  have hempty : Spells #[.accept] [] := ⟨rfl, rfl, fun c rest h => by simp at h⟩
  have hspell := hempty.spell part.reverse
  rw [List.reverse_reverse, List.append_nil] at hspell
  cases part with
  | nil => exact ⟨rfl, hempty⟩
  | cons c cs => exact hspell

/-! ## Threads -/

/-- A place where the text may have begun, and what is left of the text to be read. -/
structure Attempt where
  left : List Char
  start : Nat

namespace Attempt

def thread (a : Attempt) : Thread :=
  ⟨a.left.length, a.start⟩

/-- An attempt goes on if the next character of the text is the one that is read. -/
def read? (c : Char) : Attempt → Option Attempt
  | ⟨[], _⟩ => none
  | ⟨d :: left, start⟩ => if d = c then some ⟨left, start⟩ else none

theorem left_of_read? {c : Char} {a b : Attempt} (h : a.read? c = some b) :
    a.left = c :: b.left := by
  obtain ⟨_ | ⟨d, left⟩, start⟩ := a
  · cases h
  · rw [read?, Option.ite_none_right_eq_some] at h
    obtain ⟨rfl, hb⟩ := h
    cases hb
    rfl

/-- An attempt that has read a character has less to read than the whole text. -/
theorem length_left_lt {c : Char} {part : List Char} {as : List Attempt}
    (h : ∀ a ∈ as, a.left <:+ part) :
    ∀ b ∈ as.filterMap (read? c), b.left.length < part.length := by
  intro b hb
  obtain ⟨a, ha, hread⟩ := List.mem_filterMap.mp hb
  have hlen := (h a ha).length_le
  rwa [left_of_read? hread, List.length_cons] at hlen

/-- Behind an attempt that is not done none is. -/
theorem left_ne_nil {a : Attempt} {as : List Attempt} (ha : a.left ≠ [])
    (h : ∀ b ∈ as, a.left.length < b.left.length) : ∀ b ∈ a :: as, b.left ≠ [] :=
  List.forall_mem_cons.mpr
    ⟨ha, fun b hb => List.ne_nil_of_length_pos (Nat.zero_lt_of_lt (h b hb))⟩

end Attempt

/-- The threads of a front are attempts, those with less to read first, and what bears the mark of
the place is one of them. -/
structure Front.Holds (f : Front) (part : List Char) (mark : Nat) (as : List Attempt) : Prop where
  threads : f.threads.toList = as.map Attempt.thread
  suffix : ∀ a ∈ as, a.left <:+ part
  ascending : as.Pairwise fun a b => a.left.length < b.left.length
  marks : ∀ k m, f.marks[k]? = some m → m ≤ mark ∧ (m = mark → ∃ a ∈ as, a.left.length = k)

theorem inRanges_single (d c : Char) :
    CharSet.inRanges #[(d.toNat, d.toNat)] c.toNat = decide (d = c) := by
  rcases Nat.lt_trichotomy c.toNat d.toNat with hlt | heq | hlt
  · have hne : d ≠ c := fun h => absurd hlt (h ▸ lt_irrefl _)
    simp [CharSet.inRanges, CharSet.search, hlt, hne]
  · obtain rfl := Char.toNat_inj.mp heq
    simp [CharSet.inRanges, CharSet.search]
  · have hne : d ≠ c := fun h => absurd hlt (h ▸ lt_irrefl _)
    simp [CharSet.inRanges, CharSet.search, hlt, hne, Nat.not_lt.mpr hlt.le]

section Threads

variable {code : Code} {part : List Char} {mark : Nat} {as : List Attempt} {f : Front}
  {t : Thread} {ts : List Thread} {c : Char} {after : Option Char}

theorem step_accept {c : Option Char} (h : code[t.next]? = some .accept) :
    Program.step code c after mark (t :: ts) f = (some t.start, f) := by
  unfold Program.step
  simp only [h]

theorem step_read {ranges : Array (Nat × Nat)} {next : Nat}
    (h : code[t.next]? = some (.read ranges next)) :
    Program.step code (some c) after mark (t :: ts) f =
      if CharSet.inRanges ranges c.toNat then
        Program.step code (some c) after mark ts
          (Program.follow code (some c) after mark t.start (code.size + 1) next f)
      else Program.step code (some c) after mark ts f := by
  rw [Program.step.eq_def]
  simp only [h]

theorem step_read_none {ranges : Array (Nat × Nat)} {next : Nat}
    (h : code[t.next]? = some (.read ranges next)) :
    Program.step code none after mark (t :: ts) f = Program.step code none after mark ts f := by
  rw [Program.step.eq_def]
  simp only [h]

/-- At a place that is new no attempt is known yet. -/
theorem Front.Holds.renew (hf : f.Holds part mark as) :
    (Front.mk f.marks #[]).Holds part (mark + 1) [] where
  threads := rfl
  suffix := by simp
  ascending := .nil
  marks := by
    intro k m hm
    have hle := (hf.marks k m hm).1
    exact ⟨Nat.le_succ_of_le hle, fun h => absurd hle (by omega)⟩

/-- An attempt with more to read than the others is added behind them. -/
theorem Front.Holds.follow (hcode : Spells code part) (hf : f.Holds part mark as) {a : Attempt}
    (ha : a.left <:+ part) (hlast : ∀ b ∈ as, b.left.length < a.left.length)
    (before after : Option Char) (bound : Nat) :
    (Program.follow code before after mark a.start (bound + 1) a.left.length f).Holds part mark
      (as ++ [a]) := by
  obtain ⟨marks, threads⟩ := f
  have hunmarked : ¬marks[a.left.length]? = some mark := by
    intro h
    obtain ⟨b, hb, hlen⟩ := (hf.marks _ _ h).2 rfl
    exact absurd (hlast b hb) (by omega)
  have hfollow : Program.follow code before after mark a.start (bound + 1) a.left.length
      ⟨marks, threads⟩ = ⟨marks.setIfInBounds a.left.length mark, threads.push a.thread⟩ := by
    rw [Program.follow, if_neg hunmarked]
    obtain ⟨_ | ⟨d, left⟩, start⟩ := a
    · simp only [List.length_nil, hcode.accept]
      rfl
    · simp only [List.length_cons, hcode.read d left ha]
      rfl
  rw [hfollow]
  refine ⟨?_, ?_, ?_, ?_⟩
  · have hthreads : threads.toList = as.map Attempt.thread := hf.threads
    rw [Array.toList_push, hthreads, List.map_append]
    rfl
  · exact List.forall_mem_append.mpr ⟨hf.suffix, by simpa using ha⟩
  · exact List.pairwise_append.mpr ⟨hf.ascending, List.pairwise_singleton _ _, by simpa using hlast⟩
  · intro k m hm
    rw [Array.getElem?_setIfInBounds] at hm
    split at hm
    · rename_i hk
      split at hm
      · cases hm
        exact ⟨le_rfl, fun _ => ⟨a, by simp, hk⟩⟩
      · cases hm
    · obtain ⟨hle, hmem⟩ := hf.marks k m hm
      refine ⟨hle, fun h => ?_⟩
      obtain ⟨b, hb, hlen⟩ := hmem h
      exact ⟨b, List.mem_append_left _ hb, hlen⟩

/-- As long as no attempt is done, those that can go on do. -/
theorem Front.Holds.step (hcode : Spells code part) (hf : f.Holds part mark as) {ts : List Attempt}
    (hsuffix : ∀ t ∈ ts, t.left <:+ part) (hne : ∀ t ∈ ts, t.left ≠ [])
    (hasc : ts.Pairwise fun a b => a.left.length < b.left.length)
    (hlast : ∀ a ∈ as, ∀ t ∈ ts, a.left.length + 1 < t.left.length) (c : Char)
    (after : Option Char) :
    ∃ f', Program.step code (some c) after mark (ts.map Attempt.thread) f = (none, f') ∧
      f'.Holds part mark (as ++ ts.filterMap (Attempt.read? c)) := by
  induction ts generalizing f as with
  | nil => exact ⟨f, rfl, by simpa using hf⟩
  | cons t ts ih =>
    obtain ⟨hsuffixt, hsuffixts⟩ := List.forall_mem_cons.mp hsuffix
    obtain ⟨hnet, hnets⟩ := List.forall_mem_cons.mp hne
    obtain ⟨hasct, hascts⟩ := List.pairwise_cons.mp hasc
    obtain ⟨left, start⟩ := t
    obtain ⟨d, left, rfl⟩ := List.exists_cons_of_ne_nil hnet
    have hread : code[(Attempt.thread ⟨d :: left, start⟩).next]? =
        some (.read #[(d.toNat, d.toNat)] left.length) := hcode.read d left hsuffixt
    rw [List.map_cons, step_read hread]
    simp only [inRanges_single, decide_eq_true_eq]
    by_cases hd : d = c
    · have hnext := hf.follow hcode (a := ⟨left, start⟩)
        ((List.suffix_cons d left).trans hsuffixt)
        (fun a ha => Nat.lt_of_succ_lt_succ (hlast a ha _ List.mem_cons_self)) (some c) after
        code.size
      obtain ⟨f', hstep, hf'⟩ := ih hnext hsuffixts hnets hascts fun a ha t ht => by
        rcases List.mem_append.mp ha with ha | ha
        · exact hlast a ha t (List.mem_cons_of_mem _ ht)
        · obtain rfl := List.mem_singleton.mp ha
          exact hasct t ht
      refine ⟨f', by rw [if_pos hd]; exact hstep, ?_⟩
      rw [List.append_assoc] at hf'
      simpa [Attempt.read?, hd] using hf'
    · obtain ⟨f', hstep, hf'⟩ := ih hf hsuffixts hnets hascts fun a ha t ht =>
        hlast a ha t (List.mem_cons_of_mem _ ht)
      refine ⟨f', by rw [if_neg hd]; exact hstep, ?_⟩
      simpa [Attempt.read?, hd] using hf'

/-- At the end of what is read the first attempt that is done has a match. -/
theorem step_none (hcode : Spells code part) {ts : List Attempt}
    (hsuffix : ∀ t ∈ ts, t.left <:+ part) :
    (Program.step code none after mark (ts.map Attempt.thread) f).1 =
      (ts.find? fun t => t.left.isPrefixOf []).map Attempt.start := by
  induction ts with
  | nil => rfl
  | cons t ts ih =>
    obtain ⟨hsuffixt, hsuffixts⟩ := List.forall_mem_cons.mp hsuffix
    obtain ⟨_ | ⟨d, left⟩, start⟩ := t
    · have haccept : code[(Attempt.thread ⟨[], start⟩).next]? = some .accept := hcode.accept
      rw [List.map_cons, step_accept haccept]
      rfl
    · have hread : code[(Attempt.thread ⟨d :: left, start⟩).next]? =
          some (.read #[(d.toNat, d.toNat)] left.length) := hcode.read d left hsuffixt
      rw [List.map_cons, step_read_none hread]
      exact ih hsuffixts

end Threads

/-! ## The first match -/

/-- The match of the first attempt that the next characters complete. -/
def success? (position : Nat) (as : List Attempt) (rest : List Char) : Option Span :=
  (as.find? fun a => a.left.isPrefixOf rest).map fun a => ⟨a.start, position + a.left.length⟩

section FirstMatch

variable {part rest : List Char} {position : Nat} {as : List Attempt}

theorem success?_append (bs : List Attempt) :
    success? position (as ++ bs) rest =
      (success? position as rest).or (success? position bs rest) := by
  rw [success?, List.find?_append, Option.map_or]
  rfl

theorem success?_nil : success? position as [] = Program.prefer position none
    ((as.find? fun a => a.left.isPrefixOf []).map Attempt.start) := by
  rw [success?]
  rcases hfind : as.find? fun a => a.left.isPrefixOf [] with _ | a
  · rw [hfind]
    rfl
  · have hdone : a.left = [] := by simpa using List.find?_some hfind
    rw [hfind, Option.map_some, Option.map_some, Program.prefer, hdone]
    rfl

/-- What completes an attempt starts with the character that it reads. -/
theorem success?_read {c : Char} (hne : ∀ a ∈ as, a.left ≠ []) :
    success? position as (c :: rest) =
      success? (position + 1) (as.filterMap (Attempt.read? c)) rest := by
  induction as with
  | nil => rfl
  | cons a as ih =>
    obtain ⟨hnea, hneas⟩ := List.forall_mem_cons.mp hne
    obtain ⟨left, start⟩ := a
    obtain ⟨d, left, rfl⟩ := List.exists_cons_of_ne_nil hnea
    have hrest := ih hneas
    rw [success?, success?] at hrest
    by_cases hd : d = c
    · subst hd
      by_cases hleft : left.isPrefixOf rest = true
      · simp [success?, Attempt.read?, hleft, Nat.add_right_comm position 1, Nat.add_assoc]
      · simp [success?, Attempt.read?, hleft, hrest]
    · simp [success?, Attempt.read?, hd, hrest]

/-- The text begins here, or its first occurrence is further on. -/
theorem head?_occurrences : (occurrences part position 0 rest).head? =
    (success? position [⟨part, position⟩] rest).or
      (occurrences part (position + 1) 0 rest.tail).head? := by
  cases rest with
  | nil => cases part <;> rfl
  | cons c rest =>
    rw [occurrences, if_neg (lt_irrefl 0), List.tail_cons]
    by_cases hpart : part.isPrefixOf (c :: rest) = true
    · simp [success?, hpart]
    · simp [success?, hpart]

section Run

variable {p : Program} {before : Option Char} {f : Front}

theorem run_of_found {m : Span} {marks : Array Nat} :
    p.run before position (some m) rest ⟨marks, #[]⟩ = some m := by
  cases rest <;> rfl

/-- At each place the text may begin. -/
theorem holds_enter (hcode : Spells p.code part) (hstart : p.start = part.length)
    (hf : f.Holds part (position + 1) as) (hless : ∀ a ∈ as, a.left.length < part.length)
    (before after : Option Char) :
    (Program.enter p before after position none f).Holds part (position + 1)
      (as ++ [⟨part, position⟩]) := by
  rw [Program.enter, if_pos Option.isNone_none, hstart]
  exact hf.follow hcode (a := ⟨part, position⟩) (List.suffix_refl part) hless before after _

/-- A run from a place where some attempts are known: one of them succeeds, or there is an
occurrence from here on. -/
theorem run_of_holds (hcode : Spells p.code part) (hstart : p.start = part.length)
    (hf : f.Holds part (position + 1) as) (hless : ∀ a ∈ as, a.left.length < part.length) :
    p.run before position none rest f =
      (success? position as rest).or (occurrences part position 0 rest).head? := by
  induction rest generalizing before position f as with
  | nil =>
    have hbs := holds_enter hcode hstart hf hless before none
    have hhere : (occurrences part position 0 []).head? = success? position [⟨part, position⟩] [] :=
      by cases part <;> rfl
    rw [hhere, ← success?_append, success?_nil, Program.run_nil]
    simp only [Option.isSome_none, Bool.and_false, Bool.false_eq_true, if_false, hbs.threads,
      step_none hcode hbs.suffix]
  | cons c rest ih =>
    have hbs := holds_enter hcode hstart hf hless before (some c)
    rw [head?_occurrences, ← Option.or_assoc, ← success?_append, Program.run_cons]
    simp only [Option.isSome_none, Bool.and_false, Bool.false_eq_true, if_false, hbs.threads]
    obtain ⟨b, bs, hb⟩ := List.exists_cons_of_ne_nil
      (List.append_ne_nil_of_right_ne_nil as (List.cons_ne_nil (Attempt.mk part position) []))
    rw [hb] at hbs ⊢
    have hfirst := (List.pairwise_cons.mp hbs.ascending).1
    by_cases hdone : b.left = []
    · -- No other attempt has as little to read, so the first one that is done has no rival.
      have haccept : p.code[b.thread.next]? = some .accept := by
        rw [Attempt.thread, hdone]
        exact hcode.accept
      rw [List.map_cons, step_accept haccept]
      simp only [Program.prefer, run_of_found]
      simp [success?, hdone, Attempt.thread]
    · have hne := Attempt.left_ne_nil hdone hfirst
      obtain ⟨f', hstep, hf'⟩ :=
        hbs.renew.step hcode hbs.suffix hne hbs.ascending (by simp) c rest.head?
      rw [hstep]
      simp only [Program.prefer]
      rw [success?_read hne]
      exact ih hf' (Attempt.length_left_lt hbs.suffix)

end Run

/-! ## All matches -/

section Matches

variable {before : Option Char}

theorem find?_plain : (Program.ofRegular (plain part)).find? before position rest =
    (occurrences part position 0 rest).head? := by
  obtain ⟨hstart, hcode⟩ := spells_plain part
  have hnew : (Front.mk (Array.replicate (Program.ofRegular (plain part)).code.size 0) #[]).Holds
      part (position + 1) [] := by
    refine ⟨rfl, by simp, .nil, fun k m hm => ?_⟩
    rw [Array.getElem?_replicate, Option.ite_none_right_eq_some] at hm
    obtain ⟨-, hm⟩ := hm
    cases hm
    exact ⟨Nat.zero_le _, fun h => absurd h (Nat.succ_ne_zero _).symm⟩
  rw [Program.find?, run_of_holds hcode hstart hnew (by simp)]
  rfl

theorem spansFrom_plain (hp : part ≠ []) {behindMatch : Bool} {bound : Nat}
    (hbound : rest.length < bound) :
    (Program.ofRegular (plain part)).spansFrom before position behindMatch bound rest =
      occurrences part position 0 rest := by
  induction bound generalizing before position behindMatch rest with
  | zero => exact absurd hbound (Nat.not_lt_zero _)
  | succ bound ih =>
    unfold Program.spansFrom
    rw [find?_plain]
    by_cases hpart : part <:+: rest
    · obtain ⟨u, v, rfl, hleft⟩ := Text.exists_leftmost hpart
      have hpos := List.length_pos_iff.mpr hp
      have hmoved : ¬(position + u.length + part.length = position) := by omega
      have hcount : position + u.length + part.length - position = (u ++ part).length := by
        rw [List.length_append]
        omega
      rw [Text.occurrences_of_leftmost hp hleft]
      simp only [List.head?_cons, hmoved, decide_false, Bool.and_false, Bool.false_eq_true,
        if_false, hcount]
      congr 1
      rw [Program.advance_snd, List.drop_left]
      refine ih ?_
      simp only [List.length_append] at hbound
      omega
    · rw [Text.occurrences_of_absent hpart]
      rfl

/-- The empty text occurs everywhere. An occurrence that has been found is found again, and passed
over. -/
theorem spansFrom_empty {bound : Nat} (hbound : 2 * rest.length + 2 ≤ bound) :
    (Program.ofRegular (plain [])).spansFrom before position false bound rest =
      occurrences [] position 0 rest := by
  induction rest generalizing before position bound with
  | nil =>
    obtain ⟨bound, rfl⟩ := Nat.exists_eq_add_of_le' hbound
    simp [Program.spansFrom, find?_plain, occurrences, Program.advance]
  | cons c rest ih =>
    rw [List.length_cons] at hbound
    obtain ⟨bound, rfl⟩ := Nat.exists_eq_add_of_le' (Nat.le_of_add_left_le hbound)
    have hrest : (Program.ofRegular (plain [])).spansFrom (some c) (position + 1) false bound rest =
        occurrences [] (position + 1) 0 rest := ih (by omega)
    simp [Program.spansFrom, find?_plain, occurrences, Program.advance, hrest]

/-- The program of a text finds what a search for the text finds. -/
theorem spans_plain (part s : List Char) :
    (Program.ofRegular (plain part)).spans s = occurrences part 0 0 s := by
  by_cases hp : part = []
  · subst hp
    exact spansFrom_empty le_rfl
  · exact spansFrom_plain hp (by omega)

end Matches

end FirstMatch

end Predefined.Pattern

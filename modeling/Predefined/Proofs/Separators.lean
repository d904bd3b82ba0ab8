-- Texts as separators. A pattern without special characters stands for itself, as long as there is
-- room for it; to split a text around it and to replace it are then two views of the same pieces.
import Predefined.Proofs.Matches
import Predefined.Proofs.Occurrences
import Predefined.Proofs.Utf8
import Predefined.Value.Text

namespace Predefined

/-! ## The room for a text -/

namespace Pattern

theorem Room.plain_eq (r : Room) (n : Nat) :
    r.plain n = if stateSize * (r.states + n) + r.references ≤ limit then
      some ⟨r.states + n, r.references⟩ else none :=
  rfl

/-- States that refer to one state at most may as well be added all at once. -/
theorem Room.plain_plain (r : Room) (m n : Nat) :
    (r.plain m).bind (·.plain n) = r.plain (m + n) := by
  rw [plain_eq r m]
  by_cases h : stateSize * (r.states + m) + r.references ≤ limit
  · rw [if_pos h, Option.bind_some, plain_eq, plain_eq]
    simp only [Nat.add_assoc]
  · rw [if_neg h, Option.bind_none, plain_eq, if_neg]
    rw [stateSize] at h ⊢
    omega

theorem Room.isSome_plain (r : Room) (n : Nat) :
    (r.plain n).isSome ↔ stateSize * (r.states + n) + r.references ≤ limit := by
  simp only [plain_eq, Option.isSome_iff_exists, Option.ite_none_right_eq_some,
    Option.some.injEq, exists_and_left, exists_eq', and_true]

theorem wholeRoom_text (cs : List Char) :
    (Regular.text cs).wholeRoom .forward = Room.plain ((Utf8.encode cs).length + 2) ⟨4, 16⟩ ∧
      (Regular.text cs).wholeRoom .backward = Room.plain ((Utf8.encode cs).length + 1) ⟨3, 16⟩ := by
  constructor
  · rw [← Room.plain_plain, ← Option.bind_fun_some (Room.plain (Utf8.encode cs).length _)]
    rfl
  · rw [← Room.plain_plain, ← Option.bind_fun_some (Room.plain (Utf8.encode cs).length _)]
    rfl

/-- The bytes of the longest text that there is room for. -/
def longestText : Nat := 327673

theorem check_text (cs : List Char) :
    (Regular.text cs).check =
      if (Utf8.encode cs).length ≤ longestText then .ok (.text cs) else .error .tooLarge := by
  have hfew : ¬((Regular.text cs).texts?.any (Regular.manyTexts ≤ ·.length) : Bool) := by
    simp [Regular.texts?, Regular.manyTexts]
  obtain ⟨hforward, hbackward⟩ := wholeRoom_text cs
  rw [Regular.check, if_neg hfew, hforward, hbackward]
  simp only [Bool.and_eq_true, Room.isSome_plain, Room.stateSize, Room.limit, longestText]
  congr 1
  simp only [eq_iff_iff]
  omega

theorem length_encode_toList (p : String) : (Utf8.encode p.toList).length = p.utf8ByteSize := by
  rw [← String.size_toByteArray, ← String.utf8Encode_toList, List.utf8Encode,
    List.size_toByteArray, Utf8.encode, funext Utf8.encodeChar_eq_utf8EncodeChar]

theorem compile_text {p : String} (hne : p ≠ "") (hp : ∀ c ∈ p.toList, c ∉ special) :
    compile p =
      if p.utf8ByteSize ≤ longestText then .ok (.literal p.toList) else .error .tooLarge := by
  have hplain : p.toList.any special.contains = false := by
    simpa using hp
  have hcs : p.toList.isEmpty = false := by
    simpa using hne
  rw [compile]
  simp only [hplain, hcs, check_text, length_encode_toList, Bool.false_eq_true, if_false]
  split <;> rfl

theorem compile_empty : compile "" = .ok (.literal []) := rfl

end Pattern

/-! ## Pieces with the empty ones at the end -/

namespace Text

open Pattern (occurrences)

variable {part s : List Char}

theorem intercalate_replicate (new : List Char) (n : Nat) :
    new.intercalate (List.replicate n []) = (List.replicate (n - 1) new).flatten := by
  induction n with
  | zero => rfl
  | succ n ih =>
    cases n with
    | zero => rfl
    | succ n =>
      rw [List.replicate_succ, List.intercalate_cons_of_ne_nil (by simp), ih]
      rfl

/-- Between empty pieces at the end there is nothing but what is put between the pieces. -/
theorem intercalate_append_replicate (new : List Char) (qs : List (List Char)) (n : Nat) :
    new.intercalate (qs ++ List.replicate n []) =
      new.intercalate qs ++ (List.replicate (if qs = [] then n - 1 else n) new).flatten := by
  induction qs with
  | nil => rw [List.nil_append, intercalate_replicate, if_pos rfl, List.intercalate_nil,
      List.nil_append]
  | cons q qs ih =>
    rw [if_neg (List.cons_ne_nil q qs)]
    cases qs with
    | nil =>
      cases n with
      | zero => simp
      | succ n =>
        rw [List.cons_append, List.nil_append, List.intercalate_cons_of_ne_nil (by simp),
          intercalate_replicate, List.intercalate_singleton, Nat.add_sub_cancel,
          List.replicate_succ, List.flatten_cons, List.append_assoc]
    | cons q' qs =>
      rw [if_neg (List.cons_ne_nil q' qs)] at ih
      rw [List.cons_append, List.cons_append, List.intercalate_cons_cons, ← List.cons_append, ih,
        List.intercalate_cons_cons]
      simp only [List.append_assoc]

theorem occurrences_inOrder (part s : List Char) : InOrder s.length 0 (occurrences part 0 0 s) :=
  (Pattern.literal part).inOrder_patternSpans s

theorem Separated.pieces_eq {qs : List (List Char)} (h : Separated part qs s) (hp : part ≠ []) :
    ∃ n, qs = pieces (occurrences part 0 0 s) s ++ List.replicate n [] ∧
      (pieces (occurrences part 0 0 s) s = [] → 2 ≤ n) := by
  have hall : cuts (occurrences part 0 0 s) = occurrences part 0 0 s := by
    refine List.filter_eq_self.mpr fun m hm => ?_
    have hpos := List.length_pos_iff.mpr hp
    have hstop := stop_of_mem_occurrences m hm
    simp only [decide_eq_true_eq]
    omega
  have hcut := h.cut_eq hp 0
  have hlen := length_cut 0 s (occurrences part 0 0 s)
  rw [Text.pieces_eq (occurrences_inOrder part s), hall, ← hcut]
  split
  · rename_i hnone
    exact ⟨0, by simp [hnone, cut], fun hnil => nomatch hnil⟩
  · rename_i hsome
    obtain ⟨n, hn⟩ := dropEmptyEnd_append (cut 0 s (occurrences part 0 0 s))
    refine ⟨n, hn, fun hnil => ?_⟩
    rw [hnil, List.nil_append] at hn
    rw [hn, List.length_replicate] at hlen
    have hpos := List.length_pos_iff.mpr hsome
    omega

/-- The pieces that are left make up the text with `part` between them, and the replaced text with
`new` between them. The end of both is made up of as many copies. -/
theorem exists_copies (hp : part ≠ []) (s : List Char) :
    ∃ k, (∀ q ∈ pieces (occurrences part 0 0 s) s, ¬part <:+: q) ∧
      s = part.intercalate (pieces (occurrences part 0 0 s) s) ++
        (List.replicate k part).flatten ∧
      (pieces (occurrences part 0 0 s) s = [] → 1 ≤ k) ∧
      ∀ new, replace part new s = new.intercalate (pieces (occurrences part 0 0 s) s) ++
        (List.replicate k new).flatten := by
  obtain ⟨qs, hqs⟩ := exists_separated hp s
  obtain ⟨n, hn, hnil⟩ := hqs.pieces_eq hp
  generalize pieces (occurrences part 0 0 s) s = es at hn hnil ⊢
  refine ⟨if es = [] then n - 1 else n, fun q hq => ?_, ?_, fun he => ?_, fun new => ?_⟩
  · exact hqs.absent hp q (hn ▸ List.mem_append_left _ hq)
  · rw [← intercalate_append_replicate, ← hn]
    exact hqs.eq_intercalate
  · have := hnil he
    rw [if_pos he]
    omega
  · rw [replace, if_neg (mt List.isEmpty_iff.mp hp), hqs.replaceFrom_eq hp, hn,
      intercalate_append_replicate]

/-! ## The empty separator -/

theorem cut_everywhere (c : Char) (s : List Char) (position : Nat) :
    cut position (c :: s) (occurrences [] (position + 1) 0 s) = (c :: s).map ([·]) ++ [[]] := by
  induction s generalizing c position with
  | nil => simp [occurrences, cut]
  | cons d s ih =>
    have hocc : occurrences [] (position + 1) 0 (d :: s) =
        ⟨position + 1, position + 1⟩ :: occurrences [] (position + 2) 0 s := rfl
    rw [hocc, cut]
    simp only
    rw [Nat.add_sub_cancel_left, List.take_one, List.drop_one, List.tail_cons, ih]
    rfl

theorem dropEmptyEnd_concat {qs : List (List Char)} (h : ∀ q ∈ qs, q ≠ []) :
    dropEmptyEnd (qs ++ [[]]) = qs := by
  have hlast : ∀ hne : qs ≠ [], ¬(qs.getLast hne).isEmpty := fun hne he =>
    h _ (List.getLast_mem hne) (List.isEmpty_iff.mp he)
  calc dropEmptyEnd (qs ++ [[]])
    _ = qs.rdropWhile List.isEmpty := List.rdropWhile_concat_pos List.isEmpty qs [] rfl
    _ = qs := List.rdropWhile_eq_self_iff.mpr hlast

theorem pieces_everywhere (hs : s ≠ []) : pieces (occurrences [] 0 0 s) s = s.map ([·]) := by
  obtain ⟨c, s, rfl⟩ := List.exists_cons_of_ne_nil hs
  have hcuts : cuts (occurrences [] 0 0 (c :: s)) = occurrences [] 1 0 s := by
    have hocc : occurrences [] 0 0 (c :: s) = ⟨0, 0⟩ :: occurrences [] 1 0 s := rfl
    have hbehind : InOrder (1 + s.length) 1 (occurrences [] 1 0 s) :=
      Pattern.inOrder_occurrences (Nat.zero_le _)
    rw [hocc, cuts, List.filter_cons_of_neg (by decide), List.filter_eq_self]
    intro m hm
    have := hbehind.position_le_start m hm
    simp only [decide_eq_true_eq]
    omega
  have hcut := cut_everywhere c s 0
  have hsome : occurrences [] 1 0 s ≠ [] := by
    intro hnil
    rw [Nat.zero_add, hnil] at hcut
    have hlen := congrArg List.length hcut
    simp [cut] at hlen
  rw [pieces_eq (occurrences_inOrder [] _), hcuts, if_neg hsome, hcut]
  exact dropEmptyEnd_concat (by simp)

end Text

/-! ## Splitting and replacing -/

open Text

theorem ofList_intercalate_append (r : String) (qs : List (List Char)) (k : Nat) :
    String.ofList (r.toList.intercalate qs ++ (List.replicate k r.toList).flatten) =
      r.intercalate (qs.map String.ofList) ++ String.join (List.replicate k r) := by
  have hcopies : String.ofList (List.replicate k r.toList).flatten =
      String.join (List.replicate k r) := by
    apply String.toList_inj.mp
    rw [String.toList_ofList, String.toList_join, List.flatMap_def, List.map_replicate]
  rw [String.ofList_append, ofList_intercalate, hcopies]

theorem split_around_text {s p : String} (hne : p ≠ "")
    (hp : ∀ c ∈ p.toList, c ∉ Pattern.special) (hsize : p.utf8ByteSize ≤ Pattern.longestText) :
    ∃ (elements : List String) (k : Nat),
      Value.split (.string s) (.string p) = .ok (.array (elements.map .string)) ∧
      (∀ e ∈ elements, ¬p.toList <:+: e.toList) ∧
      s = p.intercalate elements ++ String.join (List.replicate k p) ∧
      (elements = [] → 1 ≤ k) ∧
      ∀ r, Value.replace (.string s) (.string p) (.string r) =
        .ok (.string (r.intercalate elements ++ String.join (List.replicate k r))) := by
  have hcompile : Pattern.compile p = .ok (.literal p.toList) := by
    rw [Pattern.compile_text hne hp, if_pos hsize]
  have hpart : p.toList ≠ [] := by simpa using hne
  obtain ⟨k, hfree, hs, hnil, hreplace⟩ := exists_copies hpart s.toList
  have hsplit := split_of_compiled (s := s) hcompile
  rw [Pattern.spans] at hsplit
  generalize pieces (Pattern.occurrences p.toList 0 0 s.toList) s.toList = es at *
  refine ⟨es.map String.ofList, k, ?_, ?_, ?_, ?_, fun r => ?_⟩
  · rw [hsplit, List.map_map]
    rfl
  · intro e he
    obtain ⟨q, hq, rfl⟩ := List.mem_map.mp he
    rw [String.toList_ofList]
    exact hfree q hq
  · rw [← ofList_intercalate_append, ← hs, String.ofList_toList]
  · intro he
    exact hnil (List.map_eq_nil_iff.mp he)
  · rw [← ofList_intercalate_append, ← hreplace]
    rfl

example : Value.split (.string ",,") (.string ",") = .ok (.array []) := rfl

theorem split_everywhere (s : String) :
    Value.split (.string s) (.string "") =
      .ok (.array (if s = "" then [.string ""]
        else s.toList.map fun c => .string (String.singleton c))) := by
  rw [split_of_compiled Pattern.compile_empty, Pattern.spans]
  split
  · rename_i hs
    subst hs
    rfl
  · rename_i hs
    rw [pieces_everywhere (by simpa using hs), List.map_map]
    rfl

/-- To split a text and to replace in it go by the same occurrences of a separator. -/
theorem split_and_replace_agree_on_separators :
    (∀ s p : String, p ≠ "" → (∀ c ∈ p.toList, c ∉ Pattern.special) →
      p.utf8ByteSize ≤ Pattern.longestText →
      ∃ (elements : List String) (k : Nat),
        Value.split (.string s) (.string p) = .ok (.array (elements.map .string)) ∧
        (∀ e ∈ elements, ¬p.toList <:+: e.toList) ∧
        s = p.intercalate elements ++ String.join (List.replicate k p) ∧
        (elements = [] → 1 ≤ k) ∧
        ∀ r, Value.replace (.string s) (.string p) (.string r) =
          .ok (.string (r.intercalate elements ++ String.join (List.replicate k r)))) ∧
    ∀ s : String,
      Value.split (.string s) (.string "") =
          .ok (.array (if s = "" then [.string ""]
            else s.toList.map fun c => .string (String.singleton c))) ∧
        (s ≠ "" → (Value.split (.string s) (.string "")).bind Value.length =
          Value.length (.string s)) := by
  refine ⟨fun s p hne hp hsize => split_around_text hne hp hsize, fun s =>
    ⟨split_everywhere s, fun hs => ?_⟩⟩
  rw [split_everywhere, if_neg hs, Except.bind, Value.length, Value.length, List.length_map,
    String.length_toList]

/-- Of occurrences that overlap the first one counts; what is left then begins behind it. -/
theorem an_overlapping_separator_counts_from_the_left :
    ∃ k, Value.split (.string "aaabaa") (.string "aa") = .ok (.array [.string "", .string "ab"]) ∧
      "aaabaa" = "aa".intercalate ["", "ab"] ++ String.join (List.replicate k "aa") ∧
      ∀ r, Value.replace (.string "aaabaa") (.string "aa") (.string r) =
        .ok (.string (r.intercalate ["", "ab"] ++ String.join (List.replicate k r))) := by
  obtain ⟨elements, k, hsplit, -, hs, -, hreplace⟩ :=
    split_and_replace_agree_on_separators.1 "aaabaa" "aa" (by decide)
      (by simp [Pattern.special]) (by decide)
  have hfound : Value.split (.string "aaabaa") (.string "aa") =
      .ok (.array (["", "ab"].map .string)) := rfl
  have heq : elements.map Json.string = ["", "ab"].map .string :=
    Value.array.inj (Except.ok.inj (hsplit.symm.trans hfound))
  obtain rfl := List.map_injective_iff.mpr (fun _ _ he => Json.string.inj he) heq
  exact ⟨k, hsplit, hs, hreplace⟩

end Predefined

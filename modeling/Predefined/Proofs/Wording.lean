-- What the texts of failures and log records are made of: words that are always the same, numbers,
-- names, operands that they quote, and what the reader of patterns reports on a pattern that it
-- refuses. A text with other characters than those of the words and of the report stands in them
-- only inside of a quoted operand, since words stand between any two of these.
import Mathlib.Data.List.Infix
import Predefined.Proofs.DoubleText
import Predefined.Proofs.FunctionFailure

namespace Predefined

/-! ## Texts in texts -/

/-- One text stands somewhere in another. -/
def Shows (w : List Char) (s : String) : Prop :=
  w <:+: s.toList

/-- None of the characters occurs in a text. -/
def Clear (w : List Char) (s : String) : Prop :=
  ∀ c ∈ w, c ∉ s.toList

instance (w : List Char) (s : String) : Decidable (Clear w s) :=
  List.decidableBAll (fun c => c ∉ s.toList) w

theorem Clear.append {w : List Char} {s t : String} (hs : Clear w s) (ht : Clear w t) :
    Clear w (s ++ t) := by
  intro c hc
  rw [String.toList_append, List.mem_append, not_or]
  exact ⟨hs c hc, ht c hc⟩

section Shows

variable {w : List Char} {s t u : String}

theorem Clear.not_shows (hw : w ≠ []) (h : Clear w s) : ¬ Shows w s := by
  intro hs
  obtain ⟨c, w', rfl⟩ := List.exists_cons_of_ne_nil hw
  exact h c List.mem_cons_self (hs.subset List.mem_cons_self)

/-- A text that begins in one text and ends in the next one has characters of both. -/
theorem shows_append (h : Shows w (s ++ t)) :
    Shows w s ∨ Shows w t ∨ ¬ Clear w s ∧ ¬ Clear w t := by
  rw [Shows, String.toList_append, List.infix_append_iff] at h
  rcases h with hs | ht | ⟨w₁, w₂, rfl, h₁, h₂⟩
  · exact Or.inl hs
  · exact Or.inr (Or.inl ht)
  · cases w₁ with
    | nil => exact Or.inr (Or.inl h₂.isInfix)
    | cons c w₁ =>
      cases w₂ with
      | nil =>
        rw [List.append_nil]
        exact Or.inl h₁.isInfix
      | cons d w₂ =>
        refine Or.inr (Or.inr ⟨fun hs => ?_, fun ht => ?_⟩)
        · exact hs c (by simp) (h₁.subset List.mem_cons_self)
        · exact ht d (by simp) (h₂.subset List.mem_cons_self)

theorem shows_of_clear_left (hw : w ≠ []) (hs : Clear w s) (h : Shows w (s ++ t)) : Shows w t := by
  rcases shows_append h with h | h | ⟨h, -⟩
  · exact absurd h (hs.not_shows hw)
  · exact h
  · exact absurd hs h

theorem shows_of_clear_right (hw : w ≠ []) (ht : Clear w t) (h : Shows w (s ++ t)) : Shows w s := by
  rcases shows_append h with h | h | ⟨-, h⟩
  · exact h
  · exact absurd h (ht.not_shows hw)
  · exact absurd ht h

/-- A word between two texts keeps them apart. -/
theorem shows_of_clear_between (hw : w ≠ []) (ht : Clear w t) (hne : t ≠ "")
    (h : Shows w (s ++ t ++ u)) : Shows w s ∨ Shows w u := by
  rw [String.append_assoc] at h
  obtain ⟨c, cs, hcons⟩ := List.exists_cons_of_ne_nil (String.toList_eq_nil_iff.not.2 hne)
  rw [Shows, String.toList_append, List.infix_append_iff] at h
  rcases h with hs | htu | ⟨w₁, w₂, rfl, h₁, h₂⟩
  · exact Or.inl hs
  · exact Or.inr (shows_of_clear_left hw ht htu)
  · cases w₂ with
    | nil =>
      rw [List.append_nil]
      exact Or.inl h₁.isInfix
    | cons d w₂ =>
      rw [String.toList_append, hcons, List.cons_append] at h₂
      have hd : d = c := (List.cons_prefix_cons.1 h₂).1
      exact absurd (by simp [hcons, hd]) (ht d (by simp))

end Shows

/-! ## Reports on patterns -/

/-- A report on a text shows parts of the text, and behind each part there is a sign of its own. -/
inductive ReportOn (signs : List Char) (source : String) : String → Prop where
  | nil : ReportOn signs source ""
  | part {line rest : String} {c : Char} (quoted : Shows line.toList source) (sign : c ∈ signs)
    (h : ReportOn signs source rest) : ReportOn signs source (line ++ String.singleton c ++ rest)

/-- What is relied on in the reader of patterns: its report on a pattern that it refuses shows lines
of the pattern, and all else is signs: words, numbers, line breaks, and what marks a place. -/
def Diagnostics.ReportWith (d : Diagnostics) (signs : List Char) : Prop :=
  ∀ source fault, Pattern.compile source = .error fault →
    ReportOn signs source (d.pattern source fault)

section ReportOn

variable {signs w : List Char} {source report : String}

/-- A text without signs is shown by a report only in a part of what the report is on. -/
theorem ReportOn.shows (h : ReportOn signs source report) (hw : w ≠ [])
    (hsigns : ∀ c ∈ w, c ∉ signs) (hshows : Shows w report) : Shows w source := by
  induction h with
  | nil => exact absurd hshows (Clear.not_shows hw fun _ _ => by simp)
  | @part line rest c hquoted hsign _ ih =>
    have hclear : Clear w (String.singleton c) := by
      intro c' hc'
      rw [String.toList_singleton, List.mem_singleton]
      rintro rfl
      exact hsigns c' hc' hsign
    rcases shows_of_clear_between hw hclear (by simp) hshows with hline | hrest
    · exact hline.trans hquoted
    · exact ih hrest

/-- Signs alone say nothing about a text. -/
theorem ReportOn.signs_append {s : String} (hs : s.toList ⊆ signs)
    (h : ReportOn signs source report) : ReportOn signs source (s ++ report) := by
  obtain ⟨cs, rfl⟩ : ∃ cs, s = String.ofList cs := ⟨s.toList, String.ofList_toList.symm⟩
  rw [String.toList_ofList] at hs
  induction cs with
  | nil => simpa using h
  | cons c cs ih =>
    obtain ⟨hc, hcs⟩ := List.cons_subset.1 hs
    have hsplit : String.ofList (c :: cs) ++ report =
        "" ++ String.singleton c ++ (String.ofList cs ++ report) := by
      apply String.toList_inj.1
      simp
    rw [hsplit]
    exact .part List.nil_infix hc (ih hcs)

end ReportOn

/-! ## Words -/

/-- The characters of all words in the texts of failures and log records, and of numbers. -/
def wording : List Char :=
  [' ', 'a', 'b', 'c', 'd', 'e', 'f', 'g', 'h', 'i', 'j', 'k', 'l', 'm',
    'n', 'o', 'p', 'q', 'r', 's', 't', 'u', 'v', 'w', 'x', 'y', 'z',
    'A', 'B', 'C', 'D', 'E', 'H', 'I', 'J', 'L', 'N', 'O', 'P', 'S', 'T', 'U', 'V', 'W', 'X',
    '0', '1', '2', '3', '4', '5', '6', '7', '8', '9', '\'', '(', ')', ',', '-', '.', ':', '=']

def Worded (s : String) : Prop :=
  s.toList ⊆ wording

/-- The characters of a text in quotes are looked up one by one. -/
theorem worded_ofList {cs : List Char} (h : cs ⊆ wording) : Worded (String.ofList cs) := by
  rwa [Worded, String.toList_ofList]

theorem worded_append {s t : String} (hs : Worded s) (ht : Worded t) : Worded (s ++ t) := by
  rw [Worded, String.toList_append]
  exact List.append_subset.2 ⟨hs, ht⟩

/-- A text that shares no character with words, nor with the signs of reports on patterns. -/
structure Fresh (signs w : List Char) : Prop where
  ne_nil : w ≠ []
  not_mem : ∀ c ∈ w, c ∉ wording
  not_sign : ∀ c ∈ w, c ∉ signs

theorem Fresh.clear {signs w : List Char} (h : Fresh signs w) {s : String} (hs : Worded s) :
    Clear w s :=
  fun c hc hmem => h.not_mem c hc (hs hmem)

theorem Fresh.phrase {signs w : List Char} (h : Fresh signs w) {cs : List Char}
    (hcs : cs ⊆ wording) : Clear w (String.ofList cs) :=
  h.clear (worded_ofList hcs)

/-- Words around a text. -/
theorem Fresh.around {signs w : List Char} (h : Fresh signs w) {s : String} (hs : Clear w s)
    {before after : List Char} (hwords : before ++ after ⊆ wording) :
    Clear w (String.ofList before ++ s ++ String.ofList after) :=
  have hparts := List.append_subset.1 hwords
  ((h.phrase hparts.1).append hs).append (h.phrase hparts.2)

theorem digit_mem_wording (d : Digit) : d.char ∈ wording := by
  revert d
  decide

theorem worded_natText (n : Nat) : Worded (Decimal.natText n) := by
  refine worded_ofList fun c hc => ?_
  obtain ⟨d, -, rfl⟩ := List.mem_map.1 hc
  exact digit_mem_wording d

theorem worded_intText (i : Int) : Worded (Decimal.intText i) := by
  have hnat : Decimal.natChars i.natAbs ⊆ wording := by
    simpa only [Worded, Decimal.natText, String.toList_ofList] using worded_natText i.natAbs
  refine worded_ofList ?_
  rw [Decimal.intChars]
  split
  · exact List.cons_subset.2 ⟨by decide, hnat⟩
  · exact hnat

theorem worded_doubleText (d : Double) : Worded d.text := by
  have hmarks : ['.', '-', 'N', 'a', 'I', 'n', 'f', 'i', 't', 'y'] ⊆ wording := by decide
  refine worded_ofList fun c hc => ?_
  rcases Double.mem_chars hc with hmark | ⟨digit, rfl⟩
  · exact hmarks hmark
  · exact digit_mem_wording digit

theorem worded_arity (arity : Arity) : Worded arity.text := by
  cases arity <;> exact worded_ofList (by decide)

theorem worded_role (role : Role) : Worded role.name := by
  cases role <;> exact worded_ofList (by decide)

theorem worded_typeName (v : Value) : Worded v.typeName := by
  cases v <;> exact worded_ofList (by decide)

theorem worded_charset (charset : Charset) : Worded charset.name := by
  cases charset <;> exact worded_ofList (by decide)

theorem worded_unary (f : Unary) : Worded f.name := by
  cases f <;> exact worded_ofList (by decide)

theorem worded_base64Fault (fault : Base64.Fault) : Worded fault.text := by
  cases fault with
  | invalidSymbol byte offset =>
    exact worded_append (worded_append (worded_append (worded_append
      (worded_ofList (by decide)) (worded_natText _)) (worded_ofList (by decide)))
      (worded_natText _)) (worded_ofList (by decide))
  | invalidLastSymbol byte offset =>
    exact worded_append (worded_append (worded_append (worded_append
      (worded_ofList (by decide)) (worded_natText _)) (worded_ofList (by decide)))
      (worded_natText _)) (worded_ofList (by decide))
  | invalidLength length =>
    exact worded_append (worded_ofList (by decide)) (worded_natText _)

/-! ## Failures -/

namespace EvalError

/-- The operands that the text of a failure quotes. -/
def quotes : EvalError → List String
  | invalidArgument _ operands => operands.map (·.2)
  | unsupportedCharset _ charset => [charset]
  | invalidPattern pattern _ => [pattern]
  | resourceNotFound key | registryAccess key => [key]
  | propertyNotFound key property => [property, key]
  | invalidXPath expression => [expression]
  | secretResolution key => [key]
  | _ => []

section Quotes

variable {d : Diagnostics} {signs w : List Char}

/-- The texts of operands stand apart in the text that lists them. -/
theorem shows_operandText (h : Fresh signs w) {operands : List (Role × String)}
    (hshows : Shows w (operandText operands)) : ∃ q ∈ operands.map (·.2), Shows w q := by
  have hempty : ¬ Shows w "" := Clear.not_shows h.ne_nil fun _ _ => by simp
  have hpiece : ∀ (role : Role) (s : String), Shows w (role.name ++ ": " ++ s) → Shows w s :=
    fun role s => shows_of_clear_left h.ne_nil
      ((h.clear (worded_role role)).append (h.phrase (by decide)))
  have hlist : ∀ ps : List (Role × String),
      Shows w (", ".intercalate (ps.map fun p => p.1.name ++ ": " ++ p.2)) →
        ∃ q ∈ ps.map (·.2), Shows w q := by
    intro ps hps
    induction ps with
    | nil => exact absurd hps hempty
    | cons p ps ih =>
      cases ps with
      | nil =>
        rw [List.map_singleton, String.intercalate_singleton] at hps
        exact ⟨p.2, by simp, hpiece p.1 p.2 hps⟩
      | cons p' ps =>
        rw [List.map_cons, List.map_cons, String.intercalate_cons_cons] at hps
        have hcomma : Clear w ", " := h.phrase (by decide)
        rcases shows_of_clear_between h.ne_nil hcomma (by decide) hps with hfirst | hrest
        · exact ⟨p.2, by simp, hpiece p.1 p.2 hfirst⟩
        · obtain ⟨q, hq, hshown⟩ := ih hrest
          exact ⟨q, List.mem_cons_of_mem _ hq, hshown⟩
  unfold operandText at hshows
  split at hshows
  · exact absurd hshows hempty
  · exact hlist operands (shows_of_clear_left h.ne_nil (h.phrase (by decide)) hshows)

/-- In the text of a failure of a function, a fresh text stands only inside of an operand that is
quoted. -/
theorem Blames.shows {name : String} {operands : List Value} {e : EvalError}
    (he : e.Blames name operands) (hd : d.ReportWith signs) (h : Fresh signs w)
    (hname : Clear w name) (hshows : Shows w (e.text d)) :
    ∃ v ∈ operands, v.text ∈ e.quotes ∧ Shows w v.text := by
  have hclear : ¬ Clear w (e.text d) := fun hclear => hclear.not_shows h.ne_nil hshows
  -- Most failures that quote an operand do so at the end.
  have hlast : ∀ {front : String} {v : Value}, v ∈ operands → e.quotes = [v.text] →
      Clear w front → Shows w (front ++ v.text) →
        ∃ v ∈ operands, v.text ∈ e.quotes ∧ Shows w v.text := by
    intro front v hv hquotes hfront hshows
    exact ⟨v, hv, by simp [hquotes], shows_of_clear_left h.ne_nil hfront hshows⟩
  cases he with
  | kind =>
    obtain ⟨q, hq, hshown⟩ := shows_operandText h
      (shows_of_clear_left h.ne_nil (h.around hname (by decide)) hshows)
    obtain ⟨p, hp, rfl⟩ := List.mem_map.1 hq
    obtain ⟨v, hv, htext⟩ := List.mem_map.1 (List.of_mem_zip hp).2
    rw [← htext] at hshown
    exact ⟨v, hv, htext ▸ hq, hshown⟩
  | kindOnly =>
    exact absurd ((h.around hname (by decide)).append (h.phrase (by decide))) hclear
  | @index i length =>
    have hindex := h.clear (worded_intText i.toInt)
    have hlength := h.clear (worded_natText length)
    exact absurd ((h.around hindex (by decide)).append hlength) hclear
  | @range start stop length =>
    have hstart := h.clear (worded_intText start.toInt)
    have hstop := h.clear (worded_intText stop.toInt)
    have hlength := h.clear (worded_natText length)
    exact absurd ((((h.around hstart (by decide)).append hstop).append
      (h.phrase (by decide))).append hlength) hclear
  | conversion => exact absurd (h.around hname (by decide)) hclear
  | notConvertible => exact absurd ((h.phrase (by decide)).append hname) hclear
  | charset hv => exact hlast hv rfl (h.around hname (by decide)) hshows
  | charsetName => exact absurd (h.around hname (by decide)) hclear
  | @base64 fault =>
    have hfault := h.clear (worded_base64Fault fault)
    exact absurd ((h.phrase (by decide)).append hfault) hclear
  | @pattern s fault hs hrefused =>
    -- The pattern stands between words, and the report on it in brackets behind it.
    have hopen : Clear w " (" := h.phrase (by decide)
    have hclosed := shows_of_clear_right h.ne_nil (h.phrase (by decide)) hshows
    rcases shows_of_clear_between h.ne_nil hopen (by decide) hclosed with hpattern | hreport
    · exact hlast hs rfl (h.phrase (by decide)) hpattern
    · exact ⟨.string s, hs, List.mem_singleton_self s,
        (hd s fault hrefused).shows h.ne_nil h.not_sign hreport⟩
  | @overflow i =>
    have hvalue := h.clear (worded_intText i)
    exact absurd ((h.around hname (by decide)).append hvalue) hclear
  | @doubleOverflow d =>
    have hvalue := h.clear (worded_doubleText d)
    exact absurd ((h.around hname (by decide)).append hvalue) hclear
  | resource hv => exact hlast hv rfl (h.phrase (by decide)) hshows
  | @property key property hkey hproperty =>
    have hbetween : Clear w " in the registry resource: " := h.phrase (by decide)
    rcases shows_of_clear_between h.ne_nil hbetween (by decide) hshows with hfront | hback
    · exact ⟨property, hproperty, by simp [quotes],
        shows_of_clear_left h.ne_nil (h.phrase (by decide)) hfront⟩
    · exact ⟨key, hkey, by simp [quotes], hback⟩
  | access hv => exact hlast hv rfl (h.phrase (by decide)) hshows
  | xpath hv => exact hlast hv rfl (h.phrase (by decide)) hshows
  | secret hv => exact hlast hv rfl (h.phrase (by decide)) hshows

end Quotes

end EvalError

end Predefined

-- Values as arguments of the command line. An argument that is a text of a value is read as the
-- value, so what the program prints can be given to it again, and a call on the command line is a
-- call of literals. There is one flaw in this: the compact text of a negative integer is the only
-- one that starts with a dash, and unless it stands behind a double dash it is taken for options,
-- though arguments are said to be JSON.
import Predefined.Proofs.CommandLine
import Predefined.Proofs.JsonValue
import Predefined.Proofs.Signatures

namespace Predefined

namespace Value

/-- Values that read back from their texts: no doubles, neither inside nor as the value itself, and
no more levels of arrays and objects than documents may have. -/
def Readable (v : Value) : Prop :=
  v.isDouble = false ∧ v.toJson.Readable Json.nestingLimit

def Negative (v : Value) : Prop :=
  ∃ i : Int64, v = integer i ∧ i.toInt < 0

theorem ofJson_toJson {v : Value} (h : v.isDouble = false) : ofJson v.toJson = v := by
  cases v with
  | integer i =>
    have hhigh : i.toInt < 0x8000000000000000 := i.toInt_lt
    simp only [toJson, ofJson, ofNumber, if_pos hhigh, Int64.ofInt_toInt]
  | double d => cases h
  | _ => rfl

end Value

namespace CommandLine

theorem argumentValue_compact {v : Value} (h : v.Readable) :
    argumentValue v.toJson.compact = v := by
  rw [argumentValue, Json.parse?_value_compact h.2]
  exact Value.ofJson_toJson h.1

/-- Blanks behind the text of a value do not count. -/
theorem argumentValue_of_writes {v : Value} (h : v.Readable) {s b : List Char}
    (hs : Json.Writes (.value v.toJson.toTree) s) (hb : Json.Blanks b) :
    argumentValue (String.ofList s ++ String.ofList b) = v := by
  have hparse := Json.parse?_value_of_writes h.2 Json.blanks_nil hs hb
  rw [List.nil_append, String.ofList_append] at hparse
  rw [argumentValue, hparse]
  exact Value.ofJson_toJson h.1

/-! ## Printed values -/

/-- A value reads back from its compact text and from its indented text, each with or without a line
break behind it. So whatever a request prints for the value is an argument that stands for it. -/
theorem printed_values_read_back {v : Value} (h : v.Readable) :
    (argumentValue v.toJson.compact = v ∧ argumentValue (v.toJson.compact ++ "\n") = v) ∧
    (argumentValue v.toJson.pretty = v ∧ argumentValue (v.toJson.pretty ++ "\n") = v) ∧
    ∀ (d : Diagnostics) (clock : Int64) (read : ReadFile) (r : Request),
      (r.run d clock read).1 = .ok v →
        ∃ output, r.outcome d clock read = .printed output ∧ argumentValue output = v := by
  have hprintable := Json.printable_toTree v.toJson h.2
  have hcompact := Json.writes_compactChars _ hprintable
  have hpretty := Json.writes_prettyChars 0 _ hprintable
  have hline : Json.Blanks ['\n'] := by simp [Json.Blanks, Json.isBlank]
  have hcompactLine : argumentValue (v.toJson.compact ++ "\n") = v :=
    argumentValue_of_writes h hcompact hline
  have hprettyLine : argumentValue (v.toJson.pretty ++ "\n") = v :=
    argumentValue_of_writes h hpretty hline
  have halone : argumentValue v.toJson.pretty = v := by
    have hempty := argumentValue_of_writes h hpretty Json.blanks_nil
    rwa [String.ofList_nil, String.append_empty] at hempty
  refine ⟨⟨argumentValue_compact h, hcompactLine⟩, ⟨halone, hprettyLine⟩, ?_⟩
  intro d clock read r hrun
  refine ⟨_, by simp only [Request.outcome, hrun]; rfl, ?_⟩
  by_cases hp : r.pretty = true
  · rw [if_pos hp]
    exact hprettyLine
  · rw [if_neg hp]
    exact hcompactLine

/-- The least and the greatest integer of a document, empty parts, and a key with characters that
are escaped. -/
theorem an_object_reads_back_from_its_indented_text :
    let least : Json := .number (.integer (-0x8000000000000000) (by decide))
    let greatest : Json := .number (.integer 0xFFFFFFFFFFFFFFFF (by decide))
    let v : Value := .object
      [("", .array []), ("\"\\\n\x01é", .array [least, greatest, .object []])]
    v.Readable ∧ argumentValue (v.toJson.pretty ++ "\n") = v := by
  intro least greatest v
  have hkeys : Table.Sorted [("", Json.array []),
      ("\"\\\n\x01é", .array [least, greatest, .object []])] := by
    simp only [Table.Sorted, List.pairwise_pair]
    decide
  have hreadable : v.Readable := by
    refine ⟨rfl, by decide, hkeys, ⟨by decide, trivial⟩, ⟨by decide, ?_⟩, trivial⟩
    exact ⟨⟨_, _, rfl⟩, ⟨_, _, rfl⟩, ⟨by decide, List.Pairwise.nil, trivial⟩, trivial⟩
  exact ⟨hreadable, (printed_values_read_back hreadable).2.1.2⟩

/-! ## Dashes -/

theorem compact_integer (i : Int64) :
    (Value.integer i).toJson.compact.toList =
      (if i.toInt < 0 then ['-'] else []) ++ Decimal.natChars i.toInt.natAbs := by
  have hchars : (Value.integer i).toJson.compact.toList =
      (Json.Numeral.ofInt i.toInt).chars := String.toList_ofList
  have hsign : (Json.Numeral.ofInt i.toInt).negative = decide (i.toInt < 0) := rfl
  rw [hchars, Json.Numeral.chars_eq, hsign]
  simp only [decide_eq_true_eq]
  exact congrArg _ (List.append_nil _)

/-- The text of a negative integer is a dash with a digit behind it. -/
theorem compact_of_negative {v : Value} (h : v.Negative) :
    ∃ (d : Digit) (rest : List Char), v.toJson.compact.toList = '-' :: d.char :: rest := by
  obtain ⟨i, rfl, hi⟩ := h
  obtain ⟨d, ds, hchars, -⟩ := Decimal.natChars_eq_cons i.toInt.natAbs
  refine ⟨d, Decimal.chars ds, ?_⟩
  rw [compact_integer, if_pos hi, hchars]
  rfl

/-- No other text of a value starts with a dash. -/
theorem plain_compact {v : Value} (h : v.Readable) (hpositive : ¬ v.Negative) :
    Plain v.toJson.compact := by
  intro rest hdash
  by_cases hinteger : ∃ i, v = .integer i
  · obtain ⟨i, rfl⟩ := hinteger
    have hi : ¬ i.toInt < 0 := fun hi => hpositive ⟨i, rfl, hi⟩
    obtain ⟨d, ds, hchars, -⟩ := Decimal.natChars_eq_cons i.toInt.natAbs
    rw [compact_integer, if_neg hi, hchars] at hdash
    exact Digit.char_ne (by decide) d (List.cons.inj hdash).1
  · have hnumber : ∀ n, v.toJson.toTree ≠ .number n := by
      intro n hn
      cases v with
      | integer i => exact hinteger ⟨i, rfl⟩
      | double d => cases h.1
      | _ => cases hn
    have hwrites := Json.writes_compactChars _ (Json.printable_toTree _ h.2)
    have hchars : v.toJson.compact.toList = Json.Tree.compactChars v.toJson.toTree :=
      String.toList_ofList
    exact hwrites.ne_dash hnumber rest (hchars ▸ hdash)

/-- No short option is a digit, so the text of a negative integer is refused as options. -/
theorem tokens_of_negative {vs : List Value} (h : ∀ v ∈ vs, v.Readable)
    (hnegative : ∃ v ∈ vs, v.Negative) :
    tokens evalFlags none (vs.map fun v => v.toJson.compact) = none := by
  induction vs with
  | nil => simp at hnegative
  | cons v vs ih =>
    by_cases hv : v.Negative
    · obtain ⟨d, rest, hchars⟩ := compact_of_negative hv
      have hknown : evalFlags.find? (·.short = some d.char) = none := by
        clear hchars
        revert d
        decide
      exact tokens_of_unknown evalFlags hchars (Digit.char_ne (by decide) d) hknown
    · have hrest := ih (fun w hw => h w (List.mem_cons_of_mem _ hw)) (by simpa [hv] using hnegative)
      rw [List.map_cons, tokens_plain _ (plain_compact (h v List.mem_cons_self) hv), hrest]
      rfl

/-! ## Calls -/

theorem plain_of_lookup {function : String} (h : Catalogue.lookup function ≠ []) :
    Plain function := by
  have hall : ∀ s ∈ Catalogue.unsorted, Plain s.name := by decide
  obtain ⟨s, hs⟩ := List.exists_mem_of_ne_nil _ h
  obtain ⟨hmem, rfl⟩ := Catalogue.mem_lookup.1 hs
  exact hall s hmem

/-- The call of a function over values, as an expression. -/
def callOver (function : String) (vs : List Value) : Expr :=
  .call function (vs.map .literal) .default

theorem timeless_callOver {function : String} (h : function ≠ "now") (vs : List Value) :
    (callOver function vs).Timeless := by
  refine ⟨fun hnow => h hnow.1, ?_⟩
  induction vs with
  | nil => trivial
  | cons v vs ih => exact ⟨trivial, ih⟩

/-- A request over the texts of values shows what the call over the values gives, at any time when
the function does not read the clock. -/
theorem outcome_over (d : Diagnostics) (clock clock' : Int64) (read : ReadFile) {function : String}
    (hfunction : function ≠ "now") {vs : List Value} (h : ∀ v ∈ vs, v.Readable) :
    Request.outcome d clock read
        ⟨function, vs.map fun v => v.toJson.compact, none, none, false⟩ =
      .ofResult d function (Context.empty.evaluate clock' (callOver function vs)).1.result := by
  have harguments : ((vs.map fun v => v.toJson.compact).map fun a =>
      Expr.literal (argumentValue a)) = vs.map .literal := by
    rw [List.map_map]
    exact List.map_congr_left fun v hv => congrArg Expr.literal (argumentValue_compact (h v hv))
  have hclock := (Context.evaluate_sideBySide (Context.SameStores.refl .empty) clock clock'
    (callOver function vs) (Or.inr (timeless_callOver hfunction vs))).1
  rw [Request.outcome_eq clock rfl rfl rfl, ← hclock]
  simp only [Request.expr, harguments]
  rfl

/-- A call on the command line shows what the call over literals gives: a value is printed, and the
failure of the evaluation is the reason of the failure that is reported. This is so for all values
behind a double dash, and without it for all but negative integers. -/
theorem the_command_line_evaluates_the_call (d : Diagnostics) (clock clock' : Int64)
    (read : ReadFile) {function : String} (hcatalogue : Catalogue.lookup function ≠ [])
    (hnow : function ≠ "now") {vs : List Value} (hvs : ∀ v ∈ vs, v.Readable) :
    let texts := vs.map fun v => v.toJson.compact
    let result := (Context.empty.evaluate clock' (callOver function vs)).1.result
    let shown := match result with
      | .ok v => Outcome.printed (v.toJson.compact ++ "\n")
      | .error e => Outcome.failed ⟨"Error evaluating " ++ function, some (e.text d)⟩
    outcome d clock read ("eval" :: function :: "--" :: texts) = shown ∧
    ((∀ v ∈ vs, ¬ v.Negative) → outcome d clock read ("eval" :: function :: texts) = shown) := by
  intro texts result shown
  have hplain := plain_of_lookup hcatalogue
  have hshown : Outcome.ofResult d function result = shown := by
    simp only [shown]
    cases result <;> rfl
  have hrequest := outcome_over d clock clock' read hnow hvs
  refine ⟨?_, fun hpositive => ?_⟩
  · have htokens : tokens evalFlags none (function :: "--" :: texts) =
        some ((function :: texts).map .operand) := by
      rw [tokens_plain _ hplain, tokens_doubleDash]
      rfl
    rw [outcome_of_operands d clock read htokens, hrequest, hshown]
  · have htokens : tokens evalFlags none (function :: texts) =
        some ((function :: texts).map .operand) := by
      refine tokens_of_plain _ fun a ha => ?_
      rcases List.mem_cons.1 ha with rfl | ha
      · exact hplain
      · obtain ⟨v, hv, rfl⟩ := List.mem_map.1 ha
        exact plain_compact (hvs v hv) (hpositive v hv)
    rw [outcome_of_operands d clock read htokens, hrequest, hshown]

theorem a_negative_integer_behind_a_double_dash_is_an_argument :
    Catalogue.lookup "abs" ≠ [] ∧ "abs" ≠ "now" ∧ (∀ v ∈ [Value.integer (-5)], v.Readable) ∧
      outcome default 0 (fun _ => .error .notFound)
          ["eval", "abs", "--", (Value.integer (-5)).toJson.compact] =
        .printed ((Value.integer 5).toJson.compact ++ "\n") := by
  obtain ⟨s, hs, -⟩ := Catalogue.mem_keys_iff_exists.1 (by decide : ("abs", 1) ∈ Catalogue.keys)
  have hlookup : Catalogue.lookup "abs" ≠ [] := List.ne_nil_of_mem hs
  have hreadable : ∀ v ∈ [Value.integer (-5)], v.Readable := by
    intro v hv
    obtain rfl := List.mem_singleton.1 hv
    exact ⟨rfl, _, _, rfl⟩
  exact ⟨hlookup, by decide, hreadable,
    (the_command_line_evaluates_the_call default 0 0 _ hlookup (by decide) hreadable).1⟩

/-- The flaw: a line with a negative integer among its arguments is refused, whatever the call over
the literals gives. The integer reads as short options, and no option is a digit. -/
theorem negative_integers_are_taken_for_options (d : Diagnostics) (clock : Int64) (read : ReadFile)
    {function : String} (hcatalogue : Catalogue.lookup function ≠ []) {vs : List Value}
    (hvs : ∀ v ∈ vs, v.Readable) (hnegative : ∃ v ∈ vs, v.Negative) :
    outcome d clock read ("eval" :: function :: vs.map fun v => v.toJson.compact) = .rejected := by
  refine outcome_of_refused d clock read ?_
  rw [tokens_plain _ (plain_of_lookup hcatalogue), tokens_of_negative hvs hnegative]
  rfl

/-- The same call without the double dash is refused, although its evaluation gives a value. -/
theorem a_negative_integer_alone_is_refused :
    (Value.integer (-5)).Readable ∧ (Value.integer (-5)).toJson.compact = "-5" ∧
      (Context.empty.evaluate 0 (callOver "abs" [.integer (-5)])).1.result = .ok (.integer 5) ∧
      (outcome default 0 (fun _ => .error .notFound) ["eval", "abs", "-5"]).exitCode = 2 := by
  have htext : (Value.integer (-5)).toJson.compact.toList = "-5".toList := by
    have hdigits : Decimal.natChars 5 = ['5'] := by
      rw [Decimal.natChars, Decimal.digits_of_lt (by decide)]
      rfl
    rw [compact_integer, if_pos (by decide)]
    exact congrArg _ hdigits
  exact ⟨⟨rfl, _, _, rfl⟩, String.toList_inj.1 htext, rfl, by decide +kernel⟩

end CommandLine

end Predefined

import Mathlib.Data.List.Forall2
import Verdict.Proofs.Bindings.Writes
import Verdict.Proofs.Json.Completeness
import Verdict.Proofs.Json.Range
import Verdict.Proofs.Value.Inference

/-! Tables written as JSON objects, from the grammar of their texts. A table is read exactly when
its members are all scalars, and then the last member of each name counts. -/

namespace Verdict

open Json

structure Json.Written.Whole (written : Written) (number : Int64) : Prop where
  noFraction : written.fraction = none
  noExponent : written.exponent = none
  denotes : number.toInt =
    if written.negative then -(Decimal.ofDigits written.whole : Int)
    else Decimal.ofDigits written.whole
  notMinusZero : ¬(written.negative = true ∧ number = 0)

namespace Bindings

/-- The value that a member binds its name to, or none for null. -/
inductive Binds : Content → Option Value → Prop
  | null : Binds .null none
  | boolean (truth : Bool) : Binds (.boolean truth) (some (.boolean truth))
  | string (text : String) : Binds (.string text) (some (.string text))
  | integer {written : Written} {number : Int64} (whole : written.Whole number) :
      Binds (.number written) (some (.integer number))
  | float {written : Written} {binary : Decimal.Binary} (other : ∀ number, ¬written.Whole number)
      (rounded : written.Rounded binary) :
      Binds (.number written) (some (.float (binary.toFloat written.sign)))

theorem value?_of_whole {written : Written} {number : Int64} (whole : written.Whole number) :
    written.value? = some (.integer number) := by
  obtain ⟨noFraction, noExponent, denotes, notMinusZero⟩ := whole
  have kept : (written.negative && number.toInt == 0) = false := by
    rw [Bool.and_eq_false_imp]
    intro negative
    rw [beq_eq_false_iff_ne]
    exact fun zero => notMinusZero ⟨negative, Int64.toInt_inj.mp zero⟩
  simp only [Written.value?, noFraction, noExponent, ← denotes, Literal.isInteger_toInt, kept,
    Int64.ofInt_toInt]
  rfl

theorem value?_of_not_whole {written : Written} (other : ∀ number, ¬written.Whole number) :
    written.value? = written.float?.map .float := by
  unfold Written.value?
  extract_lets magnitude number whole
  refine if_neg fun integer => ?_
  simp only [Bool.and_eq_true, Bool.not_eq_true', whole, Option.isNone_iff_eq_none] at integer
  obtain ⟨⟨⟨noFraction, noExponent⟩, range⟩, kept⟩ := integer
  have ⟨low, high⟩ := Literal.isInteger_iff.mp range
  have stored : (Int64.ofInt number).toInt = number := Int64.toInt_ofInt_of_le low high
  refine other (Int64.ofInt number) ⟨noFraction, noExponent, stored, ?_⟩
  rintro ⟨negative, zero⟩
  have nothing : number = 0 := by
    rw [← stored, zero]
    rfl
  rw [negative, nothing] at kept
  cases kept

def Reads (content : Content) (value : Option Value) : Prop :=
  ∃ json, content.scalar? = some json ∧ valueOfJson? json = .ok value

theorem Reads.scalar {content : Content} {value : Option Value} (reads : Reads content value) :
    content.Scalar := by
  obtain ⟨json, read, -⟩ := reads
  cases content with
  | array | object => cases read
  | _ => trivial

theorem Reads.binds {content : Content} {value : Option Value} {text : List Char}
    (reads : Reads content value) (writes : Writes content text) : Binds content value := by
  obtain ⟨json, read, bound⟩ := reads
  cases writes with
  | null =>
    cases read
    cases bound
    exact .null
  | isTrue =>
    cases read
    cases bound
    exact .boolean true
  | isFalse =>
    cases read
    cases bound
    exact .boolean false
  | @string text _ quoted =>
    cases read
    cases bound
    exact .string text
  | @number written text numeral =>
    rw [Content.scalar?] at read
    by_cases whole : ∃ number, written.Whole number
    · obtain ⟨number, whole⟩ := whole
      rw [value?_of_whole whole] at read
      cases read
      cases bound
      exact .integer whole
    · have other : ∀ number, ¬written.Whole number := not_exists.mp whole
      rw [value?_of_not_whole other] at read
      obtain ⟨number, found, rfl⟩ := Option.map_eq_some_iff.mp read
      cases bound
      obtain ⟨binary, rounded, rfl⟩ := Written.exists_rounded numeral.digits found
      exact .float other rounded
  | emptyArray | array | emptyObject | object => cases read

variable {content : Content} {members : List (String × Content)} {text gap rest after : List Char}
  {levels : Nat} {bindings next : Bindings}

theorem value_reads_iff {bound : Option Value} (writes : Writes content text) (blank : Gap gap)
    (closes : Closes rest) :
    (∃ json, (Reader.value .kept levels).run (gap ++ (text ++ rest)) = .ok (json, after) ∧
      valueOfJson? json = .ok bound) ↔ Reads content bound ∧ after = rest := by
  by_cases scalar : content.Scalar
  · simp only [Reader.value_scalar writes scalar blank closes]
    constructor
    · rintro ⟨json, ⟨read, same⟩, bound⟩
      exact ⟨⟨json, read, bound⟩, same⟩
    · rintro ⟨⟨json, read, bound⟩, same⟩
      exact ⟨json, ⟨read, same⟩, bound⟩
  · -- An array or an object may be read, but it cannot be bound.
    refine iff_of_false ?_ fun reads => scalar reads.1.scalar
    rintro ⟨json, ran, bound⟩
    obtain ⟨first, tail, shape, -, kind⟩ := writes.head
    have start : skipBlank (gap ++ (text ++ rest)) = first :: (tail ++ rest) := by
      rw [skipBlank_writes writes blank, shape]
      rfl
    have opening : first = '[' ∨ first = '{' := by
      by_contra neither
      exact scalar (kind.mpr (not_or.mp neither))
    rcases Reader.value_container start opening ran with ⟨items, rfl⟩ | ⟨members, rfl⟩
    · cases bound
    · cases bound

section Run

open Reader

def Enters (member : String × Content) (entry : String × Option Value) : Prop :=
  entry.1 = member.1 ∧ Reads member.2 entry.2

theorem jsonMember_eq_ok_iff {member : String × Content} (written : Member Writes member text)
    (blank : Gap gap) (closes : Closes rest) :
    (jsonMember levels bindings).run (gap ++ (text ++ rest)) = .ok (next, after) ↔
      ∃ entry, Enters member entry ∧ next = bindings.enter entry.1 entry.2 ∧ after = rest := by
  cases written with
  | @member name content quoted before between value named gapBefore gapAfter writes =>
    have nameRan := name_run named blank (before ++ ':' :: (between ++ (value ++ rest)))
    have colonRan := char_run ':' rfl gapBefore (between ++ (value ++ rest))
    have source : gap ++ (quoted ++ (before ++ ':' :: (between ++ value)) ++ rest) =
        gap ++ (quoted ++ (before ++ ':' :: (between ++ (value ++ rest)))) := by
      simp only [List.append_assoc, List.cons_append]
    rw [source, jsonMember, andThen_of_ok nameRan, andThen_of_ok colonRan, map_eq_ok_iff]
    simp only [convert_eq_ok_iff, value_reads_iff writes gapAfter closes]
    constructor
    · rintro ⟨bound, ⟨reads, same⟩, entered⟩
      exact ⟨(name, bound), ⟨rfl, reads⟩, entered.symm, same⟩
    · rintro ⟨⟨_, bound⟩, ⟨rfl, reads⟩, entered, same⟩
      exact ⟨bound, ⟨reads, same⟩, entered.symm⟩

theorem items_member {member : String × Content} {before between : List Char} {mark : Char}
    (written : Member Writes member text) (gapBefore : Gap before) (gapAfter : Gap between)
    (marks : mark = ',' ∨ mark = '}') (rest : List Char) :
    items '}' (jsonMember levels) bindings (before ++ (text ++ (between ++ mark :: rest))) =
        .ok (next, after) ↔
      ∃ entry, Enters member entry ∧
        (mark = '}' ∧ next = bindings.enter entry.1 entry.2 ∧ after = rest ∨
          mark = ',' ∧ items '}' (jsonMember levels) (bindings.enter entry.1 entry.2) rest =
            .ok (next, after)) := by
  have shown : skipBlank (between ++ mark :: rest) = mark :: rest := by
    rw [skipBlank_gap gapAfter]
    rcases marks with rfl | rfl <;> exact skipBlank_cons rfl rest
  rw [items_eq_ok_iff]
  simp only [jsonMember_eq_ok_iff written gapBefore (closes_gap gapAfter marks rest)]
  constructor
  · rintro ⟨_, _, _, _, ⟨entry, enters, rfl, rfl⟩, blank, ends⟩
    obtain ⟨rfl, rfl⟩ := List.cons.inj (shown.symm.trans blank)
    exact ⟨entry, enters, ends.imp_right And.right⟩
  · rintro ⟨entry, enters, ends⟩
    refine ⟨_, _, mark, rest, ⟨entry, enters, rfl, rfl⟩, shown, ends.imp_right ?_⟩
    rintro ⟨rfl, more⟩
    exact ⟨by decide, rfl, more⟩

theorem items_eq_ok_iff_enters (series : Series (Member Writes) members text) (rest : List Char) :
    items '}' (jsonMember levels) bindings (text ++ '}' :: rest) = .ok (next, after) ↔
      ∃ entries, List.Forall₂ Enters members entries ∧ next = bindings.enterAll entries ∧
        after = rest := by
  induction series generalizing bindings with
  | last gapBefore written gapAfter =>
    simp only [List.append_assoc]
    rw [items_member written gapBefore gapAfter (.inr rfl)]
    constructor
    · rintro ⟨entry, enters, ⟨-, rfl, rfl⟩ | ⟨going, -⟩⟩
      · exact ⟨[entry], .cons enters .nil, rfl, rfl⟩
      · cases going
    · rintro ⟨entries, entered, rfl, rfl⟩
      cases entered with
      | @cons _ entry _ _ enters others =>
        cases others
        exact ⟨entry, enters, .inl ⟨rfl, rfl, rfl⟩⟩
  | cons gapBefore written gapAfter others ih =>
    simp only [List.append_assoc, List.cons_append]
    rw [items_member written gapBefore gapAfter (.inl rfl)]
    constructor
    · rintro ⟨entry, enters, ⟨closing, -, -⟩ | ⟨-, more⟩⟩
      · cases closing
      · obtain ⟨entries, entered, rfl, rfl⟩ := ih.mp more
        exact ⟨entry :: entries, .cons enters entered, rfl, rfl⟩
    · rintro ⟨entries, entered, rfl, rfl⟩
      cases entered with
      | @cons _ entry _ entries enters others =>
        exact ⟨entry, enters, .inr ⟨rfl, ih.mpr ⟨entries, others, rfl, rfl⟩⟩⟩

theorem exists_quote (series : Series (Member Writes) members text) :
    ∃ inside, Series (Member Writes) members ('"' :: inside) ∧
      ∀ rest, skipBlank (text ++ rest) = '"' :: (inside ++ rest) := by
  have none : Gap [] := nofun
  have start {member : String × Content} {text : List Char} (written : Member Writes member text) :
      ∃ inside, text = '"' :: inside := by
    cases written with
    | member named gapBefore gapAfter value =>
      cases named
      exact ⟨_, rfl⟩
  cases series with
  | @last member before text between gapBefore written gapAfter =>
    obtain ⟨inside, rfl⟩ := start written
    refine ⟨inside ++ between, .last none written gapAfter, fun rest => ?_⟩
    rw [List.append_assoc, skipBlank_gap gapBefore]
    exact skipBlank_cons rfl _
  | @cons member members before text between tail gapBefore written gapAfter others =>
    obtain ⟨inside, rfl⟩ := start written
    refine ⟨inside ++ (between ++ ',' :: tail), .cons none written gapAfter others, fun rest => ?_⟩
    rw [List.append_assoc, skipBlank_gap gapBefore]
    exact skipBlank_cons rfl _

theorem jsonTable_run (blank : Gap gap) (rest : List Char) :
    (jsonTable levels).run (gap ++ '{' :: rest) =
      maybeItems '}' (jsonMember levels) empty rest := by
  have skipped : skipBlank (gap ++ '{' :: rest) = '{' :: rest := by
    rw [skipBlank_gap blank, skipBlank_cons rfl]
  rw [jsonTable, peek]
  dsimp only
  rw [skipped, List.head?_cons, if_pos rfl, andThen_of_ok (char_run '{' rfl blank rest)]
  rfl

theorem jsonTable_eq_ok_iff (writes : Writes (.object members) text) (blank : Gap gap)
    (rest : List Char) :
    (jsonTable levels).run (gap ++ (text ++ rest)) = .ok (next, after) ↔
      ∃ entries, List.Forall₂ Enters members entries ∧ next = empty.enterAll entries ∧
        after = rest := by
  cases writes with
  | emptyObject inner =>
    rw [List.cons_append, List.append_assoc, jsonTable_run blank, maybeItems, skipBlank_gap inner]
    change Except.ok (empty, rest) = .ok (next, after) ↔ _
    constructor
    · rintro ⟨⟩
      exact ⟨[], .nil, rfl, rfl⟩
    · rintro ⟨entries, entered, rfl, rfl⟩
      cases entered
      rfl
  | object series =>
    obtain ⟨inside, trimmed, start⟩ := exists_quote series
    rw [List.cons_append, List.append_assoc, jsonTable_run blank, maybeItems, start]
    exact items_eq_ok_iff_enters trimmed rest

theorem ofJson?_eq_ok_iff_enters {source : String}
    (document : Document (.object members) source.toList) :
    ofJson? source = .ok bindings ↔
      ∃ entries, List.Forall₂ Enters members entries ∧ bindings = empty.enterAll entries := by
  obtain ⟨before, inside, between, gapBefore, writes, gapAfter, shape⟩ := document
  have ending : skipBlank between = [] := by
    rw [← List.append_nil between, skipBlank_gap gapAfter]
    rfl
  have read : (jsonTable (maxDepth - 1)).whole source = .ok bindings ↔
      ∃ entries, List.Forall₂ Enters members entries ∧ bindings = empty.enterAll entries := by
    rw [whole_eq_ok_iff, shape]
    simp only [jsonTable_eq_ok_iff writes gapBefore between]
    constructor
    · rintro ⟨_, ⟨entries, entered, same, rfl⟩, -⟩
      exact ⟨entries, entered, same⟩
    · rintro ⟨entries, entered, same⟩
      exact ⟨between, ⟨entries, entered, same, rfl⟩, ending⟩
  rw [← read, ofJson?]
  cases (jsonTable (maxDepth - 1)).whole source <;> simp

end Run

theorem exists_reads (scalar : content.Scalar)
    (inRange : ∀ written, content = .number written → written.InRange) :
    ∃ value, Reads content value := by
  cases content with
  | null => exact ⟨none, .null, rfl, rfl⟩
  | boolean truth => exact ⟨some (.boolean truth), .boolean truth, rfl, rfl⟩
  | string text => exact ⟨some (.string text), .string text, rfl, rfl⟩
  | number written =>
    by_cases whole : ∃ number, written.Whole number
    · obtain ⟨number, whole⟩ := whole
      exact ⟨some (.integer number), .integer number, value?_of_whole whole, rfl⟩
    · obtain ⟨number, read⟩ := Written.exists_float? (inRange written rfl)
      refine ⟨some (.float number), .float number, ?_, rfl⟩
      rw [Content.scalar?, value?_of_not_whole (not_exists.mp whole), read, Option.map_some]
  | array | object => exact scalar.elim

theorem exists_enters (each : ∀ member ∈ members, ∃ value, Reads member.2 value) :
    ∃ entries, List.Forall₂ Enters members entries := by
  induction members with
  | nil => exact ⟨[], .nil⟩
  | cons member members ih =>
    obtain ⟨⟨value, reads⟩, others⟩ := List.forall_mem_cons.mp each
    obtain ⟨entries, entered⟩ := ih others
    exact ⟨(member.1, value) :: entries, .cons ⟨rfl, reads⟩ entered⟩

theorem exists_writes (document : Document (.object members) text) :
    ∀ member ∈ members, ∃ text, Writes member.2 text := by
  obtain ⟨_, _, _, -, writes, -, -⟩ := document
  have inside {member : String × Content} {text : List Char} (written : Member Writes member text) :
      ∃ text, Writes member.2 text := by
    cases written with
    | member named gapBefore gapAfter value => exact ⟨_, value⟩
  cases writes with
  | emptyObject blank => nofun
  | object series =>
    induction series with
    | last gapBefore written gapAfter => exact List.forall_mem_singleton.mpr (inside written)
    | cons gapBefore written gapAfter others ih =>
      exact List.forall_mem_cons.mpr ⟨inside written, ih⟩

theorem scalar_of_enters {entries : List (String × Option Value)}
    (entered : List.Forall₂ Enters members entries) : ∀ member ∈ members, member.2.Scalar := by
  induction entered with
  | nil => nofun
  | cons enters _ ih => exact List.forall_mem_cons.mpr ⟨enters.2.scalar, ih⟩

/-- What a name is bound to: nothing, or what its last member says. -/
def Bound : Option Content → Option Value → Prop
  | none, value => value = none
  | some content, value => Binds content value

theorem bound_lookup {entries : List (String × Option Value)}
    (entered : List.Forall₂ Enters members entries)
    (each : ∀ member ∈ members, ∃ text, Writes member.2 text) (name : String) :
    Bound (members.lookup name) ((entries.lookup name).getD none) := by
  induction entered with
  | nil => rfl
  | @cons member entry members entries enters _ ih =>
    obtain ⟨⟨text, writes⟩, others⟩ := List.forall_mem_cons.mp each
    rw [lookup_cons, lookup_cons, enters.1]
    split
    · exact enters.2.binds writes
    · exact ih others

theorem Bound.isSome_iff {found : Option Content} {value : Option Value}
    (bound : Bound found value) :
    value.isSome = true ↔ ∃ content, found = some content ∧ content ≠ .null := by
  cases found with
  | none =>
    obtain rfl : value = none := bound
    simp
  | some content =>
    have binds : Binds content value := bound
    cases binds <;> simp

/-- Where all numbers are in range, an object is a table exactly when its members are all scalars.
Of the members of one name the last counts, and a name whose last member is null is not bound. -/
theorem json_table_holds_last_members {source : String}
    (document : Document (.object members) source.toList) :
    ((∀ member ∈ members, ∀ written, member.2 = .number written → written.InRange) →
      ((∃ bindings, ofJson? source = .ok bindings) ↔ ∀ member ∈ members, member.2.Scalar)) ∧
    ∀ bindings, ofJson? source = .ok bindings →
      (∀ member ∈ members, member.2.Scalar) ∧
      (∀ name, Bound (members.reverse.lookup name) (bindings.get? name)) ∧
      ∃ names : List String, names.Nodup ∧
        (∀ name, name ∈ names ↔
          ∃ content, members.reverse.lookup name = some content ∧ content ≠ .null) ∧
        bindings.size = names.length := by
  have scalars {bindings : Bindings} (read : ofJson? source = .ok bindings) :
      ∀ member ∈ members, member.2.Scalar := by
    obtain ⟨entries, entered, -⟩ := (ofJson?_eq_ok_iff_enters document).mp read
    exact scalar_of_enters entered
  refine ⟨fun inRange => ⟨fun ⟨bindings, read⟩ => scalars read, fun scalar => ?_⟩,
    fun bindings read => ⟨scalars read, ?_⟩⟩
  · obtain ⟨entries, entered⟩ := exists_enters fun member found =>
      exists_reads (scalar member found) (inRange member found)
    exact ⟨_, (ofJson?_eq_ok_iff_enters document).mpr ⟨entries, entered, rfl⟩⟩
  · obtain ⟨entries, entered, rfl⟩ := (ofJson?_eq_ok_iff_enters document).mp read
    have each : ∀ member ∈ members.reverse, ∃ text, Writes member.2 text := fun member found =>
      exists_writes document member (List.mem_reverse.mp found)
    have bound (name : String) :
        Bound (members.reverse.lookup name) ((empty.enterAll entries).get? name) := by
      rw [get?_enterAll, get?_empty]
      exact bound_lookup (List.forall₂_reverse_iff.mpr entered) each name
    obtain ⟨names, distinct, listed, size⟩ := exists_names (empty.enterAll entries)
    refine ⟨bound, names, distinct, fun name => ?_, size⟩
    rw [listed, contains_eq_isSome_get?, (bound name).isSome_iff]

theorem json_table_holds_seven : ∃ bindings,
    ofJson? "\x7b\"n\":null, \"n\":7\x7d" = .ok bindings ∧
      bindings.get? "n" = some (.integer 7) := by
  let seven : Written := { negative := false, whole := ['7'], fraction := none, exponent := none }
  have named : Quoted "n" ['"', 'n', '"'] :=
    .quoted (.cons (.plain (by decide) (by decide) (by decide)) .nil)
  have digits : Digits ['7'] := ⟨List.cons_ne_nil _ _, List.forall_mem_singleton.mpr rfl⟩
  have numeral : Numeral seven ['7'] :=
    .written digits (fun zero => absurd zero (by decide)) .none .none
  have none : Gap [] := List.forall_mem_nil _
  have space : Gap [' '] := List.forall_mem_singleton.mpr (.inl rfl)
  have writes : Writes (.object [("n", .null), ("n", .number seven)]) _ :=
    .object (.cons none (.member named none none .null) none
      (.last space (.member named none none (.number numeral)) none))
  have document : Document (.object [("n", .null), ("n", .number seven)])
      "\x7b\"n\":null, \"n\":7\x7d".toList := ⟨[], _, [], none, writes, none, rfl⟩
  have whole : seven.Whole 7 := ⟨rfl, rfl, by decide, by decide⟩
  have inRange : seven.InRange := by
    have magnitude : seven.magnitude = 7 := by
      rw [Written.magnitude, show seven.significand = 7 from rfl, show seven.places = 0 from rfl]
      norm_num
    have power : (1 : ℚ) ≤ 10 ^ 289 := one_le_pow₀ (by norm_num)
    left
    rw [magnitude, Decimal.Binary.leastOverflow]
    generalize (10 : ℚ) ^ 289 = unit at power ⊢
    linarith
  have scalars : ∀ member ∈ [("n", Content.null), ("n", .number seven)], member.2.Scalar := by
    simp [Content.Scalar]
  obtain ⟨decodes, lookups⟩ := json_table_holds_last_members document
  obtain ⟨bindings, read⟩ := (decodes (by simp [inRange])).mpr scalars
  refine ⟨bindings, read, ?_⟩
  have bound : Binds (.number seven) (bindings.get? "n") := (lookups bindings read).2.1 "n"
  generalize bindings.get? "n" = value at bound ⊢
  cases bound with
  | integer read =>
    have same := read.denotes.trans whole.denotes.symm
    rw [Int64.toInt_inj.mp same]
  | float other => exact absurd whole (other 7)

/-- The greatest double is not the limit: the digits fit 64 bits, but their product with the power
of ten is rounded to infinity. -/
theorem number_below_greatest_refused : ∃ written : Written,
    Document (.object [("x", .number written)])
      "\x7b\"x\":1.797693134862315649e308\x7d".toList ∧
    Decimal.Binary.leastOverflow < written.magnitude ∧
    written.magnitude < Decimal.Binary.greatest.value ∧
    ∀ bindings, ofJson? "\x7b\"x\":1.797693134862315649e308\x7d" ≠ .ok bindings := by
  let fraction :=
    ['7', '9', '7', '6', '9', '3', '1', '3', '4', '8', '6', '2', '3', '1', '5', '6', '4', '9']
  let great : Written :=
    { negative := false, whole := ['1'], fraction := some fraction, exponent := some 308 }
  have named : Quoted "x" ['"', 'x', '"'] :=
    .quoted (.cons (.plain (by decide) (by decide) (by decide)) .nil)
  have digits : Digits ['1'] := ⟨List.cons_ne_nil _ _, List.forall_mem_singleton.mpr rfl⟩
  have fractionDigits : Digits fraction := ⟨List.cons_ne_nil _ _, List.all_eq_true.mp rfl⟩
  have powerDigits : Digits ['3', '0', '8'] := ⟨List.cons_ne_nil _ _, List.all_eq_true.mp rfl⟩
  have numeral : Numeral great _ :=
    .written digits (fun zero => absurd zero (by decide)) (.some fractionDigits)
      (.plain (.inl rfl) powerDigits)
  have none : Gap [] := List.forall_mem_nil _
  have writes : Writes (.object [("x", .number great)]) _ :=
    .object (.last none (.member named none none (.number numeral)) none)
  have magnitude : great.magnitude = 17976931348623156490 * 10 ^ 289 := by
    have significand : great.significand = 1797693134862315649 := by rfl
    have places : great.places = (289 + 1 : Nat) := by rfl
    rw [Written.magnitude, significand, places, zpow_natCast, pow_succ', ← mul_assoc]
    norm_num
  refine ⟨great, ⟨[], _, [], none, writes, none, by rfl⟩, ?_, ?_, ?_⟩
  · rw [magnitude, Decimal.Binary.leastOverflow]
    gcongr
    norm_num
  · rw [magnitude, Decimal.Binary.value_greatest, Decimal.Binary.two_pow_unit,
      Decimal.Binary.ten_pow_long 0]
    norm_num
  · intro bindings read
    have refused : (ofJson? "\x7b\"x\":1.797693134862315649e308\x7d").isOk = false := by
      decide +kernel
    rw [read] at refused
    cases refused

end Bindings

end Verdict

import Verdict.Proofs.Decimal.Nearest

/-! The text of a finite double reads back as that double. A candidate was chosen because it does;
when none does, the text has all digits of the magnitude and `Binary.magnitude_eq` applies. -/

namespace Verdict.Decimal

theorem foldl_digits (start : Nat) (run : List Char) :
    run.foldl (fun number char => 10 * number + digitValue char) start =
      start * 10 ^ run.length + ofDigits run := by
  unfold ofDigits
  induction run generalizing start with
  | nil => simp
  | cons first rest ih =>
    rw [List.foldl_cons, List.foldl_cons, ih, ih (10 * 0 + digitValue first), List.length_cons,
      Nat.pow_succ, Nat.add_mul, Nat.mul_zero, Nat.zero_add]
    have carry : 10 * start * 10 ^ rest.length = start * (10 ^ rest.length * 10) := by ac_rfl
    omega

theorem ofDigits_append (front back : List Char) :
    ofDigits (front ++ back) = ofDigits front * 10 ^ back.length + ofDigits back := by
  conv => lhs; unfold ofDigits
  rw [List.foldl_append, foldl_digits]
  rfl

theorem ofDigits_zeros (count : Nat) : ofDigits (List.replicate count '0') = 0 := by
  induction count with
  | zero => rfl
  | succ count ih =>
    rw [List.replicate_succ', ofDigits_append_singleton, ih]
    rfl

structure Pointed (text whole fraction : List Char) : Prop where
  text_eq : text = whole ++ '.' :: fraction
  whole_ne_nil : whole ≠ []
  fraction_ne_nil : fraction ≠ []
  whole_digits : ∀ char ∈ whole, char.isDigit = true
  fraction_digits : ∀ char ∈ fraction, char.isDigit = true

namespace Pointed

variable {text whole fraction : List Char}

theorem takeSign_eq (pointed : Pointed text whole fraction) :
    Numeral.takeSign text = (false, text) := by
  obtain ⟨rfl, wholeNe, -, wholeDigits, -⟩ := pointed
  obtain ⟨first, rest, rfl⟩ := List.exists_cons_of_ne_nil wholeNe
  exact Numeral.takeSign_digit (wholeDigits first List.mem_cons_self) _

theorem ofChars?_of_takeSign (pointed : Pointed text whole fraction) {source : List Char}
    {negative : Bool} (taken : Numeral.takeSign source = (negative, text)) :
    Numeral.ofChars? source =
      some ⟨negative, ofDigits (whole ++ fraction), -(fraction.length : Int)⟩ := by
  obtain ⟨rfl, wholeNe, fractionNe, wholeDigits, fractionDigits⟩ := pointed
  have wholeRead : (whole ++ '.' :: fraction).takeWhile Char.isDigit = whole := by
    rw [List.takeWhile_append_of_pos wholeDigits]
    simp
  have pointRead : (whole ++ '.' :: fraction).dropWhile Char.isDigit = '.' :: fraction := by
    rw [List.dropWhile_append_of_pos wholeDigits]
    simp
  have fractionRead : fraction.takeWhile Char.isDigit = fraction :=
    List.takeWhile_eq_self_iff.mpr fractionDigits
  have endRead : fraction.dropWhile Char.isDigit = [] :=
    List.dropWhile_eq_nil_iff.mpr fractionDigits
  unfold Numeral.ofChars?
  simp only [taken, wholeRead, pointRead, Numeral.takeFraction, fractionRead, endRead]
  simp [Numeral.exponent?, wholeNe]

end Pointed

def trimmed (run : List Char) : List Char :=
  if (run.reverse.dropWhile (· == '0')).isEmpty then
    ['0']
  else
    (run.reverse.dropWhile (· == '0')).reverse

theorem trimmed_ne_nil (run : List Char) : trimmed run ≠ [] := by
  unfold trimmed
  split
  · exact List.cons_ne_nil _ _
  · rename_i kept
    simpa using kept

theorem isDigit_of_mem_trimmed {run : List Char} (digitsOnly : ∀ char ∈ run, char.isDigit = true)
    {char : Char} (member : char ∈ trimmed run) : char.isDigit = true := by
  unfold trimmed at member
  split at member
  · rw [List.mem_singleton.mp member]
    rfl
  · have reversed := (List.dropWhile_sublist _).subset (List.mem_reverse.mp member)
    exact digitsOnly char (List.mem_reverse.mp reversed)

theorem ofDigits_trimmed (run : List Char) :
    ofDigits (trimmed run) * 10 ^ run.length = ofDigits run * 10 ^ (trimmed run).length := by
  have zeros : ∀ char ∈ (run.reverse.takeWhile (· == '0')).reverse, char = '0' := by
    intro char member
    have all := List.all_eq_true.mp List.all_takeWhile char (List.mem_reverse.mp member)
    exact eq_of_beq all
  have split : run = (run.reverse.dropWhile (· == '0')).reverse ++
      (run.reverse.takeWhile (· == '0')).reverse := by
    rw [← List.reverse_append, List.takeWhile_append_dropWhile, List.reverse_reverse]
  have value : ofDigits run = ofDigits (run.reverse.dropWhile (· == '0')).reverse *
      10 ^ (run.reverse.takeWhile (· == '0')).reverse.length := by
    conv => lhs; rw [split, List.eq_replicate_of_mem zeros, ofDigits_append, ofDigits_zeros]
    rw [List.length_replicate, Nat.add_zero]
  have length := congrArg List.length split
  rw [List.length_append] at length
  unfold trimmed
  split
  · rename_i empty
    rw [value, List.isEmpty_iff.mp empty]
    simp [ofDigits, digitValue]
  · rw [value, length, Nat.pow_add]
    ac_rfl

def padded (places : Nat) (run : List Char) : List Char :=
  List.replicate (places + 1 - run.length) '0' ++ run

theorem lt_length_padded (places : Nat) (run : List Char) :
    places < (padded places run).length := by
  simp only [padded, List.length_append, List.length_replicate]
  omega

theorem isDigit_of_mem_padded {places : Nat} {run : List Char}
    (digitsOnly : ∀ char ∈ run, char.isDigit = true) {char : Char}
    (member : char ∈ padded places run) : char.isDigit = true := by
  rcases List.mem_append.mp member with zero | digit
  · rw [List.eq_of_mem_replicate zero]
    rfl
  · exact digitsOnly char digit

theorem ofDigits_padded (places : Nat) (run : List Char) :
    ofDigits (padded places run) = ofDigits run := by
  rw [padded, ofDigits_append, ofDigits_zeros, Nat.zero_mul, Nat.zero_add]

theorem positional_pointed (significand : Nat) (scale : Int) :
    ∃ whole fraction, Pointed (positional significand scale) whole fraction ∧
      ofDigits (whole ++ fraction) * 10 ^ (-scale).toNat =
        significand * 10 ^ scale.toNat * 10 ^ fraction.length := by
  let places := (-scale).toNat
  let run := padded places (digits (significand * 10 ^ scale.toNat))
  let whole := run.take (run.length - places)
  let rest := run.drop (run.length - places)
  have runDigits : ∀ char ∈ run, char.isDigit = true := by
    intro char member
    exact isDigit_of_mem_padded (fun char digit => isDigit_of_mem_digits digit) member
  have long : places < run.length := lt_length_padded _ _
  have restLength : rest.length = places := by
    simp only [rest, List.length_drop]
    omega
  have cut : ofDigits whole * 10 ^ places + ofDigits rest = significand * 10 ^ scale.toNat := by
    rw [← restLength, ← ofDigits_append, List.take_append_drop, ofDigits_padded, ofDigits_digits]
  refine ⟨whole, trimmed rest, ⟨rfl, ?_, trimmed_ne_nil rest, ?_, ?_⟩, ?_⟩
  · intro empty
    have := congrArg List.length empty
    simp only [whole, List.length_take, List.length_nil] at this
    omega
  · intro char member
    exact runDigits char (List.mem_of_mem_take member)
  · intro char member
    exact isDigit_of_mem_trimmed
      (fun char member => runDigits char (List.mem_of_mem_drop member)) member
  · have fraction := ofDigits_trimmed rest
    rw [restLength] at fraction
    calc
      ofDigits (whole ++ trimmed rest) * 10 ^ places =
          ofDigits whole * 10 ^ places * 10 ^ (trimmed rest).length +
            ofDigits (trimmed rest) * 10 ^ places := by
        rw [ofDigits_append, Nat.add_mul]
        ac_rfl
      _ = significand * 10 ^ scale.toNat * 10 ^ (trimmed rest).length := by
        rw [fraction, ← Nat.add_mul, cut]

namespace Binary

variable {binary : Binary} {value : Float}

theorem float?_exact (canonical : binary.Canonical) :
    float? (positional binary.exact.1 binary.exact.2) = some (binary.toFloat .positive) := by
  obtain ⟨whole, fraction, pointed, decimal⟩ := positional_pointed binary.exact.1 binary.exact.2
  have below : (-min binary.exponent 0).toNat = (-binary.exponent).toNat := by omega
  have above : (min binary.exponent 0).toNat = 0 := by omega
  have denotes : binary.Denotes (ofDigits (whole ++ fraction)) fraction.length := by
    have fives : 0 < 5 ^ (-binary.exponent).toNat := Nat.pow_pos (by decide)
    apply Nat.eq_of_mul_eq_mul_right fives
    have ten : ∀ power, 10 ^ power = 2 ^ power * 5 ^ power := fun power => Nat.mul_pow 2 5 power
    simp only [exact, below, above, Nat.pow_zero, Nat.mul_one] at decimal
    rw [Nat.mul_assoc, ← ten, decimal]
    exact Nat.mul_right_comm _ _ _
  unfold float?
  rw [pointed.ofChars?_of_takeSign pointed.takeSign_eq]
  have someFraction := List.length_pos_iff.mpr pointed.fraction_ne_nil
  exact congrArg some (magnitude_eq denotes canonical someFraction)

end Binary

theorem float?_of_readsBack {value : Float} {text : List Char}
    (reads : readsBack value text = true) : float? text = some value := by
  unfold readsBack at reads
  cases read : float? text with
  | none =>
    rw [read] at reads
    contradiction
  | some found =>
    rw [read] at reads
    rw [Float.toBits_inj.mp (eq_of_beq reads)]

theorem shortest_pointed {value : Float} (canonical : (Binary.ofFloat value).Canonical)
    (positive : (Binary.ofFloat value).toFloat .positive = value) :
    ∃ whole fraction, Pointed (shortest value) whole fraction ∧
      float? (shortest value) = some value := by
  unfold shortest
  simp only
  cases found : ((Binary.ofFloat value).candidates.map fun decimal =>
      positional decimal.1 decimal.2).find? (readsBack value) with
  | some text =>
    obtain ⟨decimal, -, rfl⟩ := List.mem_map.mp (List.mem_of_find?_eq_some found)
    obtain ⟨whole, fraction, pointed, -⟩ := positional_pointed decimal.1 decimal.2
    exact ⟨whole, fraction, pointed, float?_of_readsBack (List.find?_some found)⟩
  | none =>
    obtain ⟨whole, fraction, pointed, -⟩ :=
      positional_pointed (Binary.ofFloat value).exact.1 (Binary.ofFloat value).exact.2
    refine ⟨whole, fraction, pointed, ?_⟩
    rw [Option.getD_none, Binary.float?_exact canonical, positive]

theorem float?_negative {text whole fraction : List Char} {value : Float}
    (pointed : Pointed text whole fraction) (read : float? text = some value) :
    float? ('-' :: text) = some (-value) := by
  have signed : Numeral.takeSign ('-' :: text) = (true, text) := rfl
  unfold float? at read ⊢
  rw [pointed.ofChars?_of_takeSign pointed.takeSign_eq] at read
  rw [pointed.ofChars?_of_takeSign signed]
  obtain rfl := Option.some.inj read
  rfl

theorem sign_eq_of_toFloat_eq {left right : Binary}
    {leftSign rightSign : Float.Model.UnpackedFloat.Sign} (leftCanonical : left.Canonical)
    (rightCanonical : right.Canonical)
    (same : left.toFloat leftSign = right.toFloat rightSign) : leftSign = rightSign := by
  have unpacked := congrArg (fun value : Float => value.toModel.unpack) same
  simp only [Binary.unpack_toFloat leftCanonical, Binary.unpack_toFloat rightCanonical] at unpacked
  unfold Binary.signed at unpacked
  split at unpacked <;> split at unpacked <;> simp_all

theorem isFinite_toFloat {binary : Binary} (canonical : binary.Canonical)
    (sign : Float.Model.UnpackedFloat.Sign) : (binary.toFloat sign).isFinite = true := by
  change (binary.toFloat sign).toModel.unpack.isFinite = true
  rw [Binary.unpack_toFloat canonical]
  exact Binary.isFinite_signed sign binary

theorem isNaN_isInf_of_isFinite {value : Float} (finite : value.isFinite = true) :
    value.isNaN = false ∧ value.isInf = false := by
  change value.toModel.unpack.isFinite = true at finite
  change value.toModel.unpack.isNaN = false ∧ value.toModel.unpack.isInf = false
  generalize value.toModel.unpack = unpacked at finite ⊢
  cases unpacked with
  | notANumber => contradiction
  | infinity sign => contradiction
  | zero sign => exact ⟨rfl, rfl⟩
  | finite sign significand exponent positive => exact ⟨rfl, rfl⟩

theorem shortest_magnitude {binary : Binary} (canonical : binary.Canonical) :
    ∃ whole fraction, Pointed (shortest (binary.toFloat .positive)) whole fraction ∧
      float? (shortest (binary.toFloat .positive)) = some (binary.toFloat .positive) := by
  obtain ⟨sign, joined, readCanonical, -⟩ :=
    Binary.exists_toFloat (isFinite_toFloat canonical .positive)
  obtain rfl := sign_eq_of_toFloat_eq readCanonical canonical joined
  exact shortest_pointed readCanonical joined

theorem floatText_eq {value : Float} {binary : Binary} {sign : Float.Model.UnpackedFloat.Sign}
    (canonical : binary.Canonical) (joined : binary.toFloat sign = value)
    (signBit : (value.toBits >>> 63 == 1) = (sign == .negative)) :
    floatText value =
      if sign == .negative then "-" ++ String.ofList (shortest (binary.toFloat .positive))
      else String.ofList (shortest (binary.toFloat .positive)) := by
  have notNaN : value.isNaN = false := by
    rw [← joined]
    exact (isNaN_isInf_of_isFinite (isFinite_toFloat canonical sign)).1
  have magnitude : value.abs = binary.toFloat .positive := by
    rw [← joined]
    exact Binary.abs_toFloat canonical
  have notInf := (isNaN_isInf_of_isFinite (isFinite_toFloat canonical .positive)).2
  unfold floatText
  simp only [notNaN, magnitude, notInf, signBit, Bool.false_eq_true, if_false]

/-- The text of a finite double is digits around a point, after a minus sign when its top bit is
set, and it reads back as the double. -/
theorem floatText_reads_back {value : Float} (finite : value.isFinite = true) :
    ∃ sign text whole fraction, (floatText value).toList = sign ++ text ∧
      (sign = [] ∨ sign = ['-']) ∧ Pointed text whole fraction ∧
      float? (floatText value).toList = some value := by
  obtain ⟨sign, joined, canonical, signBit⟩ := Binary.exists_toFloat finite
  obtain ⟨whole, fraction, pointed, read⟩ := shortest_magnitude canonical
  rw [floatText_eq canonical joined signBit]
  cases sign with
  | positive =>
    rw [if_neg (by decide), String.toList_ofList]
    exact ⟨[], _, whole, fraction, (List.nil_append _).symm, .inl rfl, pointed,
      read.trans (congrArg some joined)⟩
  | negative =>
    have negated := float?_negative pointed read
    rw [Binary.neg_toFloat canonical, joined] at negated
    have minus : "-".toList = ['-'] := rfl
    rw [if_pos (by decide), String.toList_append, minus, String.toList_ofList]
    exact ⟨['-'], shortest _, whole, fraction, Eq.refl _, .inr rfl, pointed, negated⟩

end Verdict.Decimal

import Mathlib.Data.List.Basic
import Mathlib.Data.Nat.Digits.Defs
import Pseudocode.Proofs.Expansion
import Pseudocode.Proofs.Lexing

/-!
Whole numbers and their numerals. Below the significand limit the shortest decimal of a whole number
is the number itself, without the zeros at its end, because the reals that round to it lie closer to
it than any other whole number. So it is written with its own digits, and they are read as the same
number again, in an answer and in a program.
-/

namespace Pseudocode

namespace Binary64

/-! ### The shortest decimal -/

variable {n t : Nat}

/-- The numerals of positive numbers that end in zeros. -/
theorem toDigits_mul_pow (hn : n ≠ 0) (k : Nat) :
    Nat.toDigits 10 (n * 10 ^ k) = Nat.toDigits 10 n ++ List.replicate k '0' := by
  induction k with
  | zero => rw [Nat.pow_zero, Nat.mul_one, List.replicate_zero, List.append_nil]
  | succ k ih =>
      have hpos : 0 < n * 10 ^ k := Nat.mul_pos (Nat.pos_of_ne_zero hn) (Nat.pow_pos (by decide))
      have hlast := Nat.toDigits_append_toDigits (b := 10) (d := 0) (by decide) hpos (by decide)
      have hshift : n * 10 ^ (k + 1) = 10 * (n * 10 ^ k) + 0 := by
        rw [Nat.pow_succ]
        ring
      rw [hshift, ← hlast, ih, List.append_assoc, List.replicate_succ']
      rfl

/-- The span of a whole number. It reaches two units up and at most two down, and any other whole
number lies four units or more away. -/
theorem span_whole (n t : Nat) :
    ∃ below closed, 1 ≤ below ∧ below ≤ 2 ∧ span (n * 2 ^ t) (-t) =
      ⟨4 * (n * 2 ^ t) - below, 4 * (n * 2 ^ t), 4 * (n * 2 ^ t) + 2, 4 * 2 ^ t, closed⟩ := by
  have hup : (-(t : Int) - 2).toNat = 0 := by omega
  have hunit : (2 - -(t : Int)).toNat = t + 2 := by omega
  have hpow : Nat.pow 2 (t + 2) = 4 * 2 ^ t := by
    rw [Nat.pow_eq, Nat.pow_add, Nat.mul_comm]
  refine ⟨if 2 * (n * 2 ^ t) == significandLimit && minExponent < -(t : Int) then 1 else 2,
    n * 2 ^ t % 2 == 0, ?_, ?_, ?_⟩
  · split <;> decide
  · split <;> decide
  · simp only [span, hup, hunit, hpow, Nat.pow_eq, Nat.pow_zero, Nat.mul_one]

/-- A whole number is on a grid of multiples of a power of ten only if it is such a multiple. -/
theorem onGrid?_whole (hn : n ≠ 0) (k : Nat) :
    (span (n * 2 ^ t) (-t)).onGrid? k = if 10 ^ k ∣ n then some (n / 10 ^ k) else none := by
  obtain ⟨below, closed, hbelow, hbelow', hspan⟩ := span_whole n t
  have hfiner : (-(k : Int)).toNat = 0 := by omega
  have hu : 1 ≤ 2 ^ t := Nat.one_le_two_pow
  have hpoint : 4 * (n * 2 ^ t) / (4 * 2 ^ t * 10 ^ k) = n / 10 ^ k := by
    rw [← Nat.mul_div_mul_left n (10 ^ k) (show 0 < 4 * 2 ^ t by omega)]
    congr 1
    ring
  have hleft : 4 * (n * 2 ^ t) % (4 * 2 ^ t * 10 ^ k) = 4 * 2 ^ t * (n % 10 ^ k) := by
    rw [← Nat.mul_mod_mul_left]
    congr 1
    ring
  have hsplit := Nat.div_add_mod n (10 ^ k)
  have hmod : n % 10 ^ k < 10 ^ k := Nat.mod_lt n (Nat.pow_pos (by decide))
  simp only [hspan, Span.onGrid?, hfiner, Int.toNat_natCast, Nat.pow_eq, Nat.pow_zero, Nat.mul_one,
    hpoint, hleft]
  generalize 10 ^ k = p at *
  generalize 2 ^ t = u at *
  have hpos : 1 ≤ n * u := Nat.mul_pos (Nat.pos_of_ne_zero hn) hu
  have hdown : n / p * (4 * u * p) + 4 * (u * (n % p)) = 4 * (n * u) := by
    calc n / p * (4 * u * p) + 4 * (u * (n % p)) = 4 * u * (p * (n / p) + n % p) := by ring
      _ = 4 * (n * u) := by
          rw [hsplit]
          ring
  by_cases hdvd : p ∣ n
  · -- The point of the grid below the number is the number itself.
    rw [Nat.mod_eq_zero_of_dvd hdvd, Nat.mul_zero] at hdown ⊢
    have hlow : 4 * (n * u) - below < n / p * (4 * u * p) := by omega
    have hstep : 0 < 4 * u * p := Nat.mul_pos (by omega) (by omega)
    simp [hlow, hstep, hdvd]
  · -- The points of the grid around the number lie outside of the span.
    have hrest : 1 ≤ u * (n % p) :=
      Nat.mul_pos hu (Nat.pos_of_ne_zero fun h => hdvd (Nat.dvd_of_mod_eq_zero h))
    have hbehind : n / p * (4 * u * p) < 4 * (n * u) - below := by omega
    have hahead : 4 * (n * u) + 2 < (n / p + 1) * (4 * u * p) := by
      have hnext : u * (n % p) + u ≤ u * p := by
        rw [← Nat.mul_succ]
        exact Nat.mul_le_mul_left u hmod
      have hstep : (n / p + 1) * (4 * u * p) = n / p * (4 * u * p) + 4 * (u * p) := by ring
      omega
    simp [hdvd, Nat.not_lt_of_lt hbehind, Nat.ne_of_gt hbehind, Nat.not_lt_of_lt hahead,
      Nat.ne_of_gt hahead]

theorem search_whole (hn : n ≠ 0) {fuel k : Nat} (h : k < fuel) :
    ∃ j : Nat, (span (n * 2 ^ t) (-t)).search fuel k = (n / 10 ^ j, (j : Int)) ∧ 10 ^ j ∣ n := by
  induction fuel generalizing k with
  | zero => exact absurd h (Nat.not_lt_zero k)
  | succ fuel ih =>
      rw [Span.search, onGrid?_whole hn]
      by_cases hdvd : 10 ^ k ∣ n
      · rw [if_pos hdvd]
        exact ⟨k, rfl, hdvd⟩
      · rw [if_neg hdvd]
        cases k with
        | zero => exact absurd (one_dvd n) hdvd
        | succ k =>
            have hbelow : ((k + 1 : Nat) : Int) - 1 = k := by omega
            dsimp only
            rw [hbelow]
            exact ih (by omega)

/-- The shortest decimal of a whole number leaves out nothing but zeros at its end. -/
theorem shortest_whole (hn : n ≠ 0) (t : Nat) :
    ∃ j : Nat, shortest (n * 2 ^ t) (-t) = (n / 10 ^ j, (j : Int)) ∧ 10 ^ j ∣ n := by
  rw [shortest]
  generalize htop : (max 0 (((n * 2 ^ t).log2 : Int) + 1 + -t)).toNat = top
  have hnat : max 0 (((n * 2 ^ t).log2 : Int) + 1 + -t) = (top : Int) := by omega
  rw [hnat]
  refine search_whole hn ?_
  rw [minExponent]
  omega

theorem positionalText_whole (digits k : Nat) :
    positionalText digits k 0 =
      String.ofList (Nat.toDigits 10 digits ++ List.replicate k '0') := by
  have hlength : 0 < (Nat.toDigits 10 digits).length :=
    List.length_pos_iff.mpr Nat.toDigits_ne_nil
  have hdepth : (-(k : Int)).toNat = 0 := by omega
  have hpad : 0 + 1 - (Nat.toDigits 10 digits ++ List.replicate k '0').length = 0 := by
    rw [List.length_append]
    omega
  simp only [positionalText, hdepth, hpad, Int.toNat_natCast, List.replicate_zero, List.nil_append,
    Nat.sub_zero, List.take_length, List.drop_length, List.length_nil, List.isEmpty_nil,
    if_true]

/-- The numeral of a whole number: a sign if it is negative, and its digits. -/
theorem toString_eq (i : Int) :
    toString i = signText (decide (i < 0)) ++ String.ofList (Nat.toDigits 10 i.natAbs) := by
  cases i with
  | ofNat n =>
      have hsign : ¬(Int.ofNat n < 0) := Int.not_lt.mpr (Int.natCast_nonneg n)
      rw [decide_eq_false hsign]
      exact String.empty_append.symm
  | negSucc n =>
      rw [decide_eq_true (Int.negSucc_lt_zero n)]
      rfl

theorem toList_toString (i : Int) : (toString i).toList =
    (signText (decide (i < 0))).toList ++ Nat.toDigits 10 i.natAbs := by
  rw [toString_eq, String.toList_append, String.toList_ofList]

/-- Below the limit a whole number is written with its own digits, also without regard to its being
whole. -/
theorem positional_ofInt {i : Int} (h : i.natAbs < significandLimit) :
    (ofInt i).positional 0 = toString i := by
  by_cases hzero : i = 0
  · subst hzero
    decide +kernel
  · have hpos : i.natAbs ≠ 0 := Int.natAbs_ne_zero.mpr hzero
    obtain ⟨t, ht⟩ := ofQuotient_one hpos h (decide (i < 0))
    obtain ⟨j, hshortest, hdvd⟩ := shortest_whole hpos t
    have hsignificand : (i.natAbs * 2 ^ t == 0) = false :=
      beq_eq_false_iff_ne.mpr (Nat.mul_ne_zero hpos (Nat.two_pow_pos t).ne')
    have hquotient : i.natAbs / 10 ^ j ≠ 0 :=
      (Nat.div_pos (Nat.le_of_dvd (Nat.pos_of_ne_zero hpos) hdvd) (Nat.pow_pos (by decide))).ne'
    rw [ofInt_eq hzero, ht, toString_eq, positional, hsignificand, hshortest]
    simp only [Bool.false_eq_true, if_false]
    rw [positionalText_whole, ← toDigits_mul_pow hquotient, Nat.div_mul_cancel hdvd]

end Binary64

namespace Value

/-- Both ways to write a whole number write its digits. -/
theorem display_ofInt {i : Int} (h : i.natAbs < 2 ^ 53) :
    (number (.ofInt i)).display = toString i := by
  have hinteger : (Binary64.ofInt i).toInt? = some i :=
    Binary64.toInt?_eq_some_iff.mpr (Binary64.toRat?_ofInt h)
  rw [display, numeral, hinteger]
  dsimp only
  split
  · rfl
  · exact Binary64.positional_ofInt h

end Value

/-! ### Reading -/

namespace Decimal

theorem value_toDigits (n : Nat) : value (Nat.toDigits 10 n) = n :=
  Nat.ofDigitChars_toDigits (by decide) (by decide)

theorem isDigit_toDigits (n : Nat) : ∀ c ∈ Nat.toDigits 10 n, c.isDigit = true :=
  fun _ hc => Nat.isDigit_of_mem_toDigits (by decide) (by decide) hc

/-- A whole number below the limit has few digits. -/
theorem length_toDigits_le {n : Nat} (h : n < Binary64.significandLimit) :
    (Nat.toDigits 10 n).length ≤ 16 :=
  Nat.toDigits_length 10 n 16 (by decide) (h.trans (by decide))

theorem readDigits_toDigits (negative : Bool) {n : Nat} (hn : n ≠ 0)
    (h : n < Binary64.significandLimit) :
    readDigits negative (Nat.toDigits 10 n) = some (.ofQuotient negative n 1) := by
  have hempty : (Nat.toDigits 10 n).isEmpty = false :=
    List.isEmpty_eq_false_iff.mpr Nat.toDigits_ne_nil
  have hshort := length_toDigits_le h
  have hsmall : ¬(n == 0 || decide (((Nat.toDigits 10 n).length : Int) + 0 < -330)) = true := by
    simp [hn]
  have hlarge : ¬330 < ((Nat.toDigits 10 n).length : Int) + 0 := by omega
  rw [readDigits_digits negative (isDigit_toDigits n), hempty, if_neg Bool.false_ne_true,
    value_toDigits, toBinary64, if_neg hsmall, if_neg hlarge]
  simp

/-- The numeral of a whole number below the limit is read as that number. -/
theorem read_toString {i : Int} (h : i.natAbs < Binary64.significandLimit) :
    read (toString i).toList = some (.ofInt i) := by
  by_cases hzero : i = 0
  · subst hzero
    decide +kernel
  have hpos : i.natAbs ≠ 0 := Int.natAbs_ne_zero.mpr hzero
  have hread (negative : Bool) := readDigits_toDigits negative hpos h
  have hnumeral : ∀ c ∈ Nat.toDigits 10 i.natAbs, Token.isNumeralChar c = true :=
    fun c hc => isNumeralChar_of_isDigit (isDigit_toDigits _ c hc)
  rw [Binary64.toList_toString, Binary64.ofInt_eq hzero]
  by_cases hneg : i < 0
  · rw [decide_eq_true hneg]
    have hsplit : splitSign ((Binary64.signText true).toList ++ Nat.toDigits 10 i.natAbs) =
        (true, Nat.toDigits 10 i.natAbs) := rfl
    rw [read, hsplit]
    simp only [hread true]
    rfl
  · rw [decide_eq_false hneg]
    have hsplit : splitSign ((Binary64.signText false).toList ++ Nat.toDigits 10 i.natAbs) =
        (false, Nat.toDigits 10 i.natAbs) := splitSign_of_numeralChars hnumeral
    rw [read, hsplit]
    simp only [hread false]
    rfl

end Decimal

namespace Text

variable {before cs after : List Char}

/-- What is left of a text without blanks in it, when blanks are put around it. -/
theorem trimBlank_eq (hne : cs ≠ []) (visible : ∀ c ∈ cs, isBlank c = false)
    (hbefore : ∀ c ∈ before, isBlank c = true) (hafter : ∀ c ∈ after, isBlank c = true) :
    trimBlank (before ++ cs ++ after) = cs := by
  have hfront : Stops isBlank (cs ++ after) := by
    cases cs with
    | nil => exact absurd rfl hne
    | cons c cs => exact stops_cons (visible c List.mem_cons_self) _
  have hback : Stops isBlank cs.reverse := by
    intro c hc
    exact visible c (List.mem_reverse.mp (List.mem_of_mem_head? hc))
  have hafter' : ∀ c ∈ after.reverse, isBlank c = true :=
    fun c hc => hafter c (List.mem_reverse.mp hc)
  rw [trimBlank, List.append_assoc, hfront.dropWhile hbefore, List.reverse_append,
    hback.dropWhile hafter', List.reverse_reverse]

end Text

namespace Value

theorem toList_toString_ne_nil (i : Int) : (toString i).toList ≠ [] := by
  rw [Binary64.toList_toString]
  exact List.append_ne_nil_of_right_ne_nil _ Nat.toDigits_ne_nil

theorem isBlank_toString (i : Int) : ∀ c ∈ (toString i).toList, Text.isBlank c = false := by
  rw [Binary64.toList_toString, List.forall_mem_append]
  refine ⟨?_, fun c hc => Text.isBlank_of_isDigit (Decimal.isDigit_toDigits _ c hc)⟩
  cases decide (i < 0) with
  | false => exact List.forall_mem_nil _
  | true => exact List.forall_mem_singleton.mpr (by decide)

/-- An answer that is the numeral of a whole number, with blanks around it or without. -/
theorem ofAnswer_toString {i : Int} (h : i.natAbs < 2 ^ 53) {before after : List Char}
    (hbefore : ∀ c ∈ before, Text.isBlank c = true)
    (hafter : ∀ c ∈ after, Text.isBlank c = true) :
    ofAnswer (String.ofList (before ++ (toString i).toList ++ after)) = number (.ofInt i) := by
  have hread := Decimal.read_toString h
  have hfinite : (Binary64.ofInt i).isFinite = true :=
    Binary64.isFinite_iff.mpr ⟨_, Binary64.toRat?_ofInt h⟩
  rw [ofAnswer, String.toList_ofList,
    Text.trimBlank_eq (toList_toString_ne_nil i) (isBlank_toString i) hbefore hafter]
  simp only [hread, hfinite, if_true]

end Value

namespace Token

/-- The numeral of a whole number in a program. -/
theorem scan_toString {i : Int} (h : i.natAbs < 2 ^ 53) (hnonneg : 0 ≤ i) {rest : List Char}
    (stops : Text.Stops isNumeralChar rest) :
    scan ((toString i).toList ++ rest) = (scan rest).map (.number (.ofInt i) :: ·) := by
  have hdigits : ∀ c ∈ (toString i).toList, c.isDigit = true := by
    rw [Binary64.toList_toString, decide_eq_false (Int.not_lt.mpr hnonneg)]
    exact Decimal.isDigit_toDigits _
  have hnumeral : IsNumeral (toString i).toList :=
    (Decimal.isNumeral_digits hdigits).mpr (Value.toList_toString_ne_nil i)
  have longest : Longest (.number _ hnumeral) rest := stops
  refine (scan_lexeme longest).trans ?_
  rw [Lexeme.token]
  simp only [Decimal.read_toString h, Option.get_some]

end Token

namespace Statement

open HostCall

theorem runAll_single (patience : Nat) (statement : Statement) :
    runAll patience [statement] = run patience statement :=
  Action.andThen_skip _

section

variable (answers : Nat → String) (patience line : Nat) {name : String} {scope : Scope} {v : Value}

/-- Telling the value of a variable. -/
theorem runOn_output_var (hv : scope.get? name = some v) (calls : List HostCall) :
    (run patience (.output line [.var name]) scope).runOn (.recording answers fun _ => false)
        calls = ((none, scope), calls ++ [check, tell v.display]) := by
  simp only [run, Action.unlessCanceled, Dialogue.runOn, Expr.line, Expr.eval, hv, Action.evaluate]
  exact congrArg (Prod.mk _) (List.append_assoc calls [check] [tell v.display])

/-- Telling the variable of a counting loop in every pass. -/
theorem runOn_count_output (passes : Nat) (i : Int) (calls : List HostCall) :
    ((Action.count name (runAll patience [.output line [.var name]]) passes i scope).runOn
        (.recording answers fun _ => false) calls).2 =
      calls ++ (List.range passes).flatMap fun k : Nat =>
        [check, check, tell (Value.number (.ofInt (i + k))).display] := by
  induction passes generalizing i calls scope with
  | zero => exact (List.append_nil calls).symm
  | succ passes ih =>
      have hname : (scope.set name (.number (.ofInt i))).get? name = some (.number (.ofInt i)) := by
        rw [Scope.get?_set, if_pos rfl]
      have hshift (k : Nat) : i + 1 + (k : Int) = i + (k + 1 : Nat) := by omega
      refine (congrArg Prod.snd (Dialogue.runOn_bind _
        (runAll patience [.output line [.var name]] (scope.set name (.number (.ofInt i)))) _
        (calls ++ [check]))).trans ?_
      rw [runAll_single, runOn_output_var answers patience line hname]
      dsimp only
      rw [← runAll_single, ih, List.range_succ_eq_map, List.flatMap_cons, List.flatMap_map]
      simp [hshift]

theorem runOn_count_range {a b : Int} (ha : a.natAbs < 2 ^ 53) (hb : b.natAbs < 2 ^ 53)
    (line' : Nat) :
    ((run patience (.count line name (.number (.ofInt a)) (.number (.ofInt b))
        [.output line' [.var name]]) scope).runOn (.recording answers fun _ => false) []).2 =
      check :: (List.range (b + 1 - a).toNat).flatMap fun k : Nat =>
        [check, check, tell (toString (a + k))] := by
  have hbound {i : Int} (hi : i.natAbs < 2 ^ 53) (next : Int → Action) :
      Action.evaluate line (Expr.bound · (.number (.ofInt i))) next = next i := by
    have hok : (Value.number (.ofInt i)).asBound = .ok i :=
      Value.asBound_eq_ok_iff.mpr ⟨_, rfl, Binary64.toRat?_ofInt hi, hi⟩
    funext scope
    have heval : (Expr.number (.ofInt i)).bound scope = Evaluation.ofExcept (.ok i) := by
      rw [← hok]
      rfl
    rw [Action.evaluate, heval]
    rfl
  rw [run]
  simp only [hbound ha, hbound hb]
  refine (runOn_count_output answers patience line' _ a [check]).trans ?_
  refine congrArg (check :: ·) (List.flatMap_congr fun k hk => ?_)
  rw [List.mem_range] at hk
  rw [Value.display_ofInt (by omega)]

theorem runOn_input_output {i : Int} {answer : String}
    (hanswer : Value.ofAnswer answer = .number (.ofInt i)) (line' : Nat) :
    ((runAll patience [.input line (.var name), .output line' [.var name]] scope).runOn
      (.recording (fun _ => answer) fun _ => false) []).2 =
      [check, ask name, check, tell (Value.number (.ofInt i)).display] := by
  have hname : (scope.set name (.number (.ofInt i))).get? name = some (.number (.ofInt i)) := by
    rw [Scope.get?_set, if_pos rfl]
  have htold := runOn_output_var (fun _ => answer) patience line' hname [check, ask name]
  rw [← hanswer, ← runAll_single] at htold
  rw [← hanswer]
  exact congrArg Prod.snd htold

end

end Statement

namespace Value

open HostCall

/-- Whole numbers below `2 ^ 53` are written and read without loss. The number that stands for one
is displayed by its plain numeral, whether it is large or not; an answer that is the numeral, with
any blanks around it, is the number again; and so is the numeral in a program, if there is no sign
to it. So a variable that counts, an answer that is echoed and a literal have the same text. -/
theorem whole_numbers_exact {i : Int} (h : i.natAbs < 2 ^ 53) :
    (Binary64.ofInt i).toRat? = some (i : Rat) ∧
    (number (.ofInt i)).display = toString i ∧
    (∀ before after : List Char, (∀ c ∈ before, Text.isBlank c = true) →
      (∀ c ∈ after, Text.isBlank c = true) →
        ofAnswer (String.ofList (before ++ (toString i).toList ++ after)) = number (.ofInt i)) ∧
    (0 ≤ i → ∀ rest, Text.Stops Token.isNumeralChar rest →
      Token.scan ((toString i).toList ++ rest) = (Token.scan rest).map (.number (.ofInt i) :: ·)) ∧
    ∀ (answers : Nat → String) (patience line line' : Nat) (name : String) (scope : Scope),
      let calls (answers : Nat → String) (statements : List Statement) : List HostCall :=
        ((Statement.runAll patience statements scope).runOn
          (.recording answers fun _ => false) []).2
      (∀ last : Int, last.natAbs < 2 ^ 53 →
        calls answers [.count line name (.number (.ofInt i)) (.number (.ofInt last))
            [.output line' [.var name]]] =
          check :: (List.range (last + 1 - i).toNat).flatMap fun k : Nat =>
            [check, check, tell (toString (i + k))]) ∧
      calls (fun _ => toString i) [.input line (.var name), .output line' [.var name]] =
        [check, ask name, check, tell (toString i)] ∧
      calls answers [.output line [.number (.ofInt i)]] = [check, tell (toString i)] := by
  have hdisplay := display_ofInt h
  refine ⟨Binary64.toRat?_ofInt h, hdisplay, fun _ _ => ofAnswer_toString h,
    fun hnonneg _ => Token.scan_toString h hnonneg, ?_⟩
  intro answers patience line line' name scope
  refine ⟨fun last hlast => ?_, ?_, ?_⟩
  · dsimp only
    rw [Statement.runAll_single]
    exact Statement.runOn_count_range answers patience line h hlast line'
  · have hanswer : ofAnswer (toString i) = number (.ofInt i) := by
      have hread := ofAnswer_toString h (List.forall_mem_nil _) (List.forall_mem_nil _)
      rwa [List.nil_append, List.append_nil, String.ofList_toList] at hread
    exact (Statement.runOn_input_output patience line hanswer line').trans (by rw [hdisplay])
  · rw [← hdisplay]
    rfl

/-- The greatest whole number below the limit. It is large, so it is written as a decimal. -/
theorem whole_numbers_exact_greatest :
    (number (.ofInt 9007199254740991)).display = "9007199254740991" ∧
    ofAnswer " 9007199254740991\n" = number (.ofInt 9007199254740991) ∧
    Token.scan "9007199254740991)".toList =
      .ok [.number (.ofInt 9007199254740991), .symbol .rightParen] := by
  obtain ⟨-, hdisplay, hanswer, hscan, -⟩ := whole_numbers_exact (i := 9007199254740991) (by decide)
  have hnumeral : toString (9007199254740991 : Int) = "9007199254740991" := by decide +kernel
  have hrest : Token.scan [')'] = .ok [.symbol .rightParen] := by decide +kernel
  refine ⟨hdisplay.trans hnumeral, ?_, ?_⟩
  · have hread := hanswer [' '] ['\n'] (List.forall_mem_singleton.mpr (by decide))
      (List.forall_mem_singleton.mpr (by decide))
    rw [hnumeral] at hread
    exact hread
  · have hread := hscan (by decide) [')'] (Text.stops_cons (by decide) [])
    rw [hnumeral, hrest] at hread
    exact hread

end Value

end Pseudocode

import GridRobot.Json.Parser
import GridRobot.Json.Printer

/-!
What the reader of JSON text makes of the pieces that the writer writes: strings with their escapes, and
integers. Each lemma takes one step of a reading that succeeds.
-/
namespace GridRobot.Json

def Yields {α : Type} {size : Nat} (reading : Reading α size) (value : α) (rest : List Char) : Prop :=
  ∃ shorter, reading = .ok ⟨value, rest, shorter⟩

section Strings

variable {count : Nat} {done text after rest : List Char} {s : String}

theorem string_quote : Yields (string count done ('"' :: rest)) (String.ofList done.reverse) rest :=
  ⟨_, string.eq_2 count done rest⟩

theorem string_plain {c : Char} (quote : c ≠ '"') (slash : c ≠ '\\') (printable : 0x20 ≤ c.toNat)
    (more : Yields (string (count + 1) (c :: done) text) s rest) : Yields (string count done (c :: text)) s rest := by
  rcases more with ⟨shorter, read⟩
  rw [string.eq_6 count done c text quote (fun same _ => slash same) (fun _ same _ => slash same)
    (fun _ _ same _ => slash same), if_neg (by omega), read]
  exact ⟨_, rfl⟩

theorem string_escape {c d : Char} (known : escapeChar? c = some d)
    (more : Yields (string (count + 2) (d :: done) text) s rest) :
    Yields (string count done ('\\' :: c :: text)) s rest := by
  rcases more with ⟨shorter, read⟩
  -- `u` stands for a code unit and for no character.
  have other : c ≠ 'u' := by
    rintro rfl
    cases known
  rw [string.eq_5 count done c text other]
  simp only [known, read]
  exact ⟨_, rfl⟩

theorem string_unit {n : Nat} (found : unit? text = some (n, after)) (whole : isHigh n = false)
    (more : Yields (string (count + 6) (lone n :: done) after) s rest) :
    Yields (string count done ('\\' :: 'u' :: text)) s rest := by
  rcases more with ⟨shorter, read⟩
  rw [string.eq_4]
  split
  · rename_i missing
    rw [found] at missing
    cases missing
  · rename_i same
    rw [found] at same
    cases same
    simp only [whole, read]
    exact ⟨_, rfl⟩

theorem string_pair {n low : Nat} (found : unit? text = some (n, after)) (high : isHigh n = true)
    (second : lowHalf after = .ok (some low))
    (more : Yields (string (count + 12) (joined n low :: done) (after.drop 6)) s rest) :
    Yields (string count done ('\\' :: 'u' :: text)) s rest := by
  rcases more with ⟨shorter, read⟩
  rw [string.eq_4]
  split
  · rename_i missing
    rw [found] at missing
    cases missing
  · rename_i same
    rw [found] at same
    cases same
    simp only [high, second, if_true, bind, Except.bind, read]
    exact ⟨_, rfl⟩

end Strings

theorem hexValue?_hexDigit {n : Nat} (small : n < 16) : hexValue? (Binary64.hexDigit n) = some n := by
  -- There are only sixteen of them.
  have digits : ∀ k : Fin 16, hexValue? (Binary64.hexDigit k) = some k := by decide
  exact digits ⟨n, small⟩

theorem hexDigits_four (n : Nat) : Binary64.hexDigits 4 n =
    [Binary64.hexDigit (n / 16 / 16 / 16 % 16), Binary64.hexDigit (n / 16 / 16 % 16), Binary64.hexDigit (n / 16 % 16),
      Binary64.hexDigit (n % 16)] := by
  simp [Binary64.hexDigits]

theorem hex4?_hexDigits {n : Nat} (small : n < 0x10000) :
    hex4? (Binary64.hexDigit (n / 16 / 16 / 16 % 16)) (Binary64.hexDigit (n / 16 / 16 % 16))
      (Binary64.hexDigit (n / 16 % 16)) (Binary64.hexDigit (n % 16)) = some n := by
  have digit (k : Nat) : hexValue? (Binary64.hexDigit (k % 16)) = some (k % 16) :=
    hexValue?_hexDigit (Nat.mod_lt k (by decide))
  simp only [hex4?, digit, Option.bind_eq_bind, Option.bind_some, Option.some.injEq]
  omega

theorem unit?_hexDigits {n : Nat} (small : n < 0x10000) {text : List Char} (more : text ≠ []) :
    unit? (Binary64.hexDigits 4 n ++ text) = some (n, text) := by
  rcases List.exists_cons_of_ne_nil more with ⟨c, rest, rfl⟩
  rw [hexDigits_four]
  simp only [List.cons_append, List.nil_append, unit?, hex4?_hexDigits small, Option.map_some]

theorem lowHalf_unitEscape {n : Nat} (small : n < 0x10000) (low : isLow n = true) {text : List Char}
    (more : text ≠ []) :
    lowHalf (unitEscape n ++ text) = .ok (some n) := by
  rcases List.exists_cons_of_ne_nil more with ⟨c, rest, rfl⟩
  rw [unitEscape, hexDigits_four]
  simp only [List.cons_append, List.nil_append, lowHalf, hex4?_hexDigits small, low, if_true]

theorem drop_unitEscape (n : Nat) (text : List Char) : (unitEscape n ++ text).drop 6 = text := by
  rw [unitEscape, hexDigits_four]
  rfl

theorem not_surrogate (c : Char) : c.toNat < 0xd800 ∨ 0xe000 ≤ c.toNat ∧ c.toNat < 0x110000 := by
  have valid : c.toNat < 0xd800 ∨ 0xdfff < c.toNat ∧ c.toNat < 0x110000 := c.valid
  omega

theorem lone_toNat (c : Char) : isHigh c.toNat = false ∧ lone c.toNat = c := by
  have whole := not_surrogate c
  have high : isHigh c.toNat = false := by
    simp only [isHigh, Bool.and_eq_false_iff, decide_eq_false_iff_not]
    omega
  have low : isLow c.toNat = false := by
    simp only [isLow, Bool.and_eq_false_iff, decide_eq_false_iff_not]
    omega
  refine ⟨high, ?_⟩
  simp only [lone, high, low, Bool.or_self, Bool.false_eq_true, if_false]
  exact c.ofNat_toNat

theorem joined_halves {c : Char} (large : 0x10000 ≤ c.toNat) :
    isHigh (0xd800 + (c.toNat - 0x10000) / 0x400) = true ∧ isLow (0xdc00 + (c.toNat - 0x10000) % 0x400) = true ∧
      joined (0xd800 + (c.toNat - 0x10000) / 0x400) (0xdc00 + (c.toNat - 0x10000) % 0x400) = c := by
  have bounds := not_surrogate c
  refine ⟨?_, ?_, ?_⟩
  · simp only [isHigh, Bool.and_eq_true, decide_eq_true_eq]
    omega
  · simp only [isLow, Bool.and_eq_true, decide_eq_true_eq]
    omega
  · have whole : 0x10000 + (0xd800 + (c.toNat - 0x10000) / 0x400 - 0xd800) * 0x400 +
        (0xdc00 + (c.toNat - 0x10000) % 0x400 - 0xdc00) = c.toNat := by omega
    rw [joined, whole]
    exact c.ofNat_toNat

theorem escapeChar_cases (c : Char) :
    (∃ d, escapeChar? d = some c ∧ escapeChar c = ['\\', d]) ∨
    (c ≠ '"' ∧ c ≠ '\\' ∧ 0x20 ≤ c.toNat ∧ escapeChar c = [c]) ∨
    (c.toNat < 0x10000 ∧ escapeChar c = unitEscape c.toNat) ∨
    (0x10000 ≤ c.toNat ∧ escapeChar c =
      unitEscape (0xd800 + (c.toNat - 0x10000) / 0x400) ++ unitEscape (0xdc00 + (c.toNat - 0x10000) % 0x400)) := by
  by_cases quote : c = '"'
  · subst quote
    exact .inl ⟨'"', rfl, rfl⟩
  by_cases slash : c = '\\'
  · subst slash
    exact .inl ⟨'\\', rfl, rfl⟩
  by_cases line : c = '\n'
  · subst line
    exact .inl ⟨'n', rfl, rfl⟩
  by_cases carriage : c = '\r'
  · subst carriage
    exact .inl ⟨'r', rfl, rfl⟩
  by_cases tab : c = '\t'
  · subst tab
    exact .inl ⟨'t', rfl, rfl⟩
  by_cases back : c = Char.ofNat 8
  · subst back
    exact .inl ⟨'b', rfl, rfl⟩
  by_cases feed : c = Char.ofNat 12
  · subst feed
    exact .inl ⟨'f', rfl, rfl⟩
  -- The writer asks for these two by their code.
  have notBack : c.toNat ≠ 8 := fun same => back (same ▸ c.ofNat_toNat.symm)
  have notFeed : c.toNat ≠ 12 := fun same => feed (same ▸ c.ofNat_toNat.symm)
  simp only [escapeChar, beq_iff_eq, quote, slash, line, carriage, tab, notBack, notFeed, if_false]
  by_cases printable : (0x20 ≤ c.toNat && c.toNat ≤ 0x7e) = true
  · have low : 0x20 ≤ c.toNat := by simpa using (Bool.and_eq_true_iff.mp printable).1
    exact .inr (.inl ⟨quote, slash, low, if_pos printable⟩)
  · rw [if_neg printable]
    by_cases small : c.toNat < 0x10000
    · exact .inr (.inr (.inl ⟨small, if_pos small⟩))
    · exact .inr (.inr (.inr ⟨by omega, if_neg small⟩))

theorem string_escapeChar {done text rest : List Char} {s : String} (c : Char) (more : text ≠ [])
    (reads : ∀ count, Yields (string count (c :: done) text) s rest) (count : Nat) :
    Yields (string count done (escapeChar c ++ text)) s rest := by
  rcases escapeChar_cases c with
    ⟨d, known, written⟩ | ⟨quote, slash, printable, written⟩ | ⟨small, written⟩ | ⟨large, written⟩
  · rw [written]
    exact string_escape known (reads _)
  · rw [written]
    exact string_plain quote slash printable (reads _)
  · have unit := lone_toNat c
    rw [written]
    apply string_unit (unit?_hexDigits small more) unit.1
    rw [unit.2]
    exact reads _
  · have halves := joined_halves large
    have bounds := not_surrogate c
    rw [written, List.append_assoc]
    apply string_pair (unit?_hexDigits (by omega) (by simp [unitEscape])) halves.1
      (lowHalf_unitEscape (by omega) halves.2.1 more)
    rw [halves.2.2, drop_unitEscape]
    exact reads _

theorem string_written (chars : List Char) (count : Nat) (done rest : List Char) :
    Yields (string count done (chars.flatMap escapeChar ++ '"' :: rest)) (String.ofList (done.reverse ++ chars)) rest := by
  -- By the characters that are left; `done` holds what was read of the string, latest first.
  induction chars generalizing count done with
  | nil =>
    rw [List.append_nil]
    exact string_quote
  | cons c chars ih =>
    have text : (c :: chars).flatMap escapeChar ++ '"' :: rest =
        escapeChar c ++ (chars.flatMap escapeChar ++ '"' :: rest) := by
      rw [List.flatMap_cons, List.append_assoc]
    have whole : done.reverse ++ c :: chars = (c :: done).reverse ++ chars := by
      rw [List.reverse_cons, List.append_assoc, List.singleton_append]
    rw [text, whole]
    exact string_escapeChar c (by simp) (fun count => ih count (c :: done)) count

/-- No part of a numeral stands at the front of what follows one. -/
def Ends (rest : List Char) : Prop :=
  ∀ c, rest.head? = some c → Text.isAsciiDigit c = false ∧ c ≠ '.' ∧ c ≠ 'e' ∧ c ≠ 'E'

theorem isAsciiDigit_of_mem_toDigits {n : Nat} {c : Char} (member : c ∈ Nat.toDigits 10 n) :
    Text.isAsciiDigit c = true := by
  have digit := Nat.isDigit_of_mem_toDigits (by decide) (by decide) member
  simpa [Char.isDigit, Text.isAsciiDigit, Char.le_def] using digit

theorem ne_of_isAsciiDigit {c d : Char} (digit : Text.isAsciiDigit c = true)
    (mark : Text.isAsciiDigit d = false) :
    c ≠ d := by
  rintro rfl
  rw [mark] at digit
  cases digit

theorem toDigits_cons (n : Nat) : ∃ c rest, Nat.toDigits 10 n = c :: rest ∧ (c = '0' → rest = []) := by
  induction n using Nat.strongRecOn with
  | ind n ih =>
    by_cases small : n < 10
    · exact ⟨_, [], Nat.toDigits_of_lt_base small, fun _ => rfl⟩
    · rcases ih (n / 10) (by omega) with ⟨c, rest, digits, zero⟩
      refine ⟨c, rest ++ [Nat.digitChar (n % 10)], ?_, ?_⟩
      · rw [Nat.toDigits_of_base_le (by decide) (by omega), digits, List.cons_append]
      · intro leading
        -- A numeral with more than one digit has a quotient that is not zero, and so no zero in front.
        have alone := zero leading
        subst leading alone
        have quotient : Nat.ofDigitChars 10 (Nat.toDigits 10 (n / 10)) 0 = n / 10 := Nat.ofDigitChars_ten_toDigits
        rw [digits] at quotient
        have none : n / 10 = 0 := quotient.symm
        omega

section Numerals

variable {rest : List Char}

theorem spanDigits_toDigits (n : Nat) (ends : Ends rest) :
    Text.spanDigits (Nat.toDigits 10 n ++ rest) = (Nat.toDigits 10 n, rest) := by
  have digits : ∀ c ∈ Nat.toDigits 10 n, Text.isAsciiDigit c = true := by
    intro c member
    exact isAsciiDigit_of_mem_toDigits member
  unfold Text.spanDigits
  rw [List.takeWhile_append_of_pos digits, List.dropWhile_append_of_pos digits]
  cases rest with
  | nil => simp
  | cons c rest =>
    have other := (ends c rfl).1
    simp [other]

theorem wholeOf_toDigits (n : Nat) (ends : Ends rest) :
    wholeOf (Nat.toDigits 10 n ++ rest) = (Nat.toDigits 10 n, rest) := by
  rcases toDigits_cons n with ⟨c, digits, written, zero⟩
  by_cases leading : c = '0'
  · rw [written, zero leading, leading]
    rfl
  · have other : wholeOf (Nat.toDigits 10 n ++ rest) = Text.spanDigits (Nat.toDigits 10 n ++ rest) := by
      unfold wholeOf
      split
      · rename_i same
        rw [written] at same
        cases same
        exact (leading rfl).elim
      · rfl
    rw [other, spanDigits_toDigits n ends]

theorem fractionOf_ends (ends : Ends rest) : fractionOf rest = ([], rest) := by
  unfold fractionOf
  split
  · exact ((ends '.' rfl).2.1 rfl).elim
  · rfl

theorem exponentOf_ends (ends : Ends rest) : exponentOf rest = (none, rest) := by
  unfold exponentOf
  split
  · rfl
  · rename_i mark after
    have other := (ends mark rfl).2.2
    simp [other]

def numeralOf (n : Int) : Numeral := ⟨n < 0, Nat.toDigits 10 n.natAbs, [], none⟩

theorem number_numeralOf (n : Int) : (numeralOf n).number = .int n := by
  have digits : Text.digitsValue (Nat.toDigits 10 n.natAbs) = n.natAbs := Nat.ofDigitChars_ten_toDigits
  simp only [Numeral.number, numeralOf, digits, List.isEmpty_nil, Option.isNone_none, Bool.and_self, if_true,
    decide_eq_true_eq, Number.int.injEq]
  split <;> omega

theorem numberChars_int (n : Int) :
    numberChars (.int n) = if n < 0 then '-' :: Nat.toDigits 10 n.natAbs else Nat.toDigits 10 n.natAbs := by
  have negated (below : n < 0) : (-n).toNat = n.natAbs := by omega
  have kept (above : 0 ≤ n) : n.toNat = n.natAbs := by omega
  show (toString n).toList = _
  rw [Int.toString_eq_repr, Int.repr_eq_if]
  by_cases below : n < 0
  · have notAbove : ¬0 ≤ n := by omega
    rw [if_neg notAbove, if_pos below, negated below, String.toList_append, Nat.toList_repr]
    rfl
  · have above : 0 ≤ n := by omega
    rw [if_pos above, if_neg below, kept above, Nat.toList_repr]

theorem numeral?_int (n : Int) (ends : Ends rest) :
    numeral? (numberChars (.int n) ++ rest) = some (numeralOf n, rest) := by
  rw [numberChars_int]
  by_cases below : n < 0
  · rw [if_pos below]
    simp [numeral?, wholeOf_toDigits _ ends, fractionOf_ends ends, exponentOf_ends ends, numeralOf, below]
  · rw [if_neg below]
    -- A digit stands in front, and no sign is taken off.
    have unsigned : ∀ after, Nat.toDigits 10 n.natAbs ++ rest ≠ '-' :: after := by
      intro after same
      rcases toDigits_cons n.natAbs with ⟨c, digits, written, -⟩
      have digit := isAsciiDigit_of_mem_toDigits (n := n.natAbs) (c := c) (by simp [written])
      rw [written, List.cons_append] at same
      exact ne_of_isAsciiDigit digit rfl (List.cons.inj same).1
    unfold numeral?
    split
    rename_i signed
    split at signed
    · rename_i same
      exact (unsigned _ same).elim
    · cases signed
      simp [wholeOf_toDigits _ ends, fractionOf_ends ends, exponentOf_ends ends, numeralOf, below]

theorem numberChars_cons (n : Int) : ∃ c more, numberChars (.int n) = c :: more ∧
    (Text.isAsciiDigit c = true ∨ (c = '-' ∧ ∃ d after, more = d :: after ∧ Text.isAsciiDigit d = true)) := by
  rcases toDigits_cons n.natAbs with ⟨c, digits, written, -⟩
  have digit := isAsciiDigit_of_mem_toDigits (n := n.natAbs) (c := c) (by simp [written])
  rw [numberChars_int, written]
  by_cases below : n < 0
  · rw [if_pos below]
    exact ⟨'-', c :: digits, rfl, .inr ⟨rfl, c, digits, rfl, digit⟩⟩
  · rw [if_neg below]
    exact ⟨c, digits, rfl, .inl digit⟩

theorem scalar?_int (n : Int) (ends : Ends rest) :
    scalar? (numberChars (.int n) ++ rest) = some (.int n, rest) := by
  -- Of the words only the negative infinity starts like an integer, and it goes on with a letter.
  have noWord : (words.find? fun word => word.1.isPrefixOf (numberChars (.int n) ++ rest)) = none := by
    rcases numberChars_cons n with ⟨c, more, written, digit | ⟨rfl, d, after, rfl, digit⟩⟩
    · rw [written]
      have other {w : Char} (letter : Text.isAsciiDigit w = false) : (w == c) = false := by
        rw [beq_eq_false_iff_ne]
        exact (ne_of_isAsciiDigit digit letter).symm
      have n := other (w := 'n') rfl
      have t := other (w := 't') rfl
      have f := other (w := 'f') rfl
      have N := other (w := 'N') rfl
      have I := other (w := 'I') rfl
      have minus := other (w := '-') rfl
      simp [words, List.isPrefixOf, n, t, f, N, I, minus]
    · rw [written]
      have other : ('I' == d) = false := by
        rw [beq_eq_false_iff_ne]
        exact (ne_of_isAsciiDigit digit rfl).symm
      simp [words, List.isPrefixOf, other]
  unfold scalar?
  rw [noWord]
  simp [numeral?_int n ends, number_numeralOf]

end Numerals

end GridRobot.Json

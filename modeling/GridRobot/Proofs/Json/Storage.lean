import GridRobot.Files
import GridRobot.Proofs.Json.RoundTrip

/-!
A document in a text file. What is written of a document is ASCII without a carriage return, so the bytes of the file
are read back as the text they were made from, whatever the document says.
-/
namespace GridRobot

namespace Text

/-- A character that takes one byte and is no part of a line end that would be read as another. -/
def IsKept (c : Char) : Prop := c.toNat < 0x80 ∧ c ≠ '\r'

instance (c : Char) : Decidable (IsKept c) := instDecidableAnd

def AllKept (chars : List Char) : Prop := ∀ c ∈ chars, IsKept c

instance (chars : List Char) : Decidable (AllKept chars) := List.decidableBAll IsKept chars

namespace AllKept

variable {c : Char} {chars more : List Char}

theorem cons (first : IsKept c) (others : AllKept chars) : AllKept (c :: chars) :=
  List.forall_mem_cons.mpr ⟨first, others⟩

theorem head (kept : AllKept (c :: chars)) : IsKept c := kept c (List.mem_cons_self ..)

theorem tail (kept : AllKept (c :: chars)) : AllKept chars := fun d member => kept d (List.mem_cons_of_mem _ member)

theorem append (first : AllKept chars) (second : AllKept more) : AllKept (chars ++ more) :=
  List.forall_mem_append.mpr ⟨first, second⟩

end AllKept

section Kept

variable {chars : List Char} (kept : AllKept chars)
include kept

theorem utf8_kept : chars.flatMap String.utf8EncodeChar = chars.map fun c => UInt8.ofNat c.toNat := by
  induction chars with
  | nil => rfl
  | cons c rest ih =>
    have small : c.val.toNat ≤ 127 := Nat.le_of_lt_succ kept.head.1
    have one : String.utf8EncodeChar c = [UInt8.ofNat c.toNat] := if_pos small
    rw [List.flatMap_cons, one, ih kept.tail]
    rfl

theorem decodeFrom_kept (position : Nat) (done : List Char) :
    decodeFrom false .utf8 position done chars.length (chars.map Char.toNat) = .ok (done.reverse ++ chars) := by
  induction chars generalizing position done with
  | nil => simp [decodeFrom]
  | cons c rest ih =>
    have small := kept.head.1
    have one : utf8Char false (c.toNat :: rest.map Char.toNat) = .ok (c, 1) := by
      simp [utf8Char, small]
    rw [List.length_cons, List.map_cons, decodeFrom, Encoding.char, one]
    simp [ih kept.tail]

theorem unifyLines_kept : unifyLines chars = chars := by
  induction chars with
  | nil => rfl
  | cons c rest ih =>
    have other := kept.head.2
    rw [unifyLines.eq_4 c rest (fun _ same _ => other same) other, ih kept.tail]

end Kept

theorem decodeFile_kept {text : String} (kept : AllKept text.toList) :
    decodeFile text.toUTF8.data.toList = .ok text.toList := by
  have bytes : text.toUTF8.data.toList = text.toList.flatMap String.utf8EncodeChar := by
    have written := String.toByteArray_ofList (l := text.toList)
    rw [String.ofList_toList] at written
    rw [String.toUTF8, written]
    exact List.toList_data_toByteArray
  have codes : (text.toList.map fun c => UInt8.ofNat c.toNat).map UInt8.toNat = text.toList.map Char.toNat := by
    rw [List.map_map]
    apply List.map_congr_left
    intro c member
    have small := (kept c member).1
    simp
    omega
  rw [bytes, utf8_kept kept, decodeFile, codes]
  simp only [List.length_map, decodeFrom_kept kept]
  simp [Except.map, unifyLines_kept kept]

end Text

namespace Json

open Text (IsKept AllKept)

theorem hexDigit_kept (n : Nat) : IsKept (Binary64.hexDigit (n % 16)) := by
  -- There are only sixteen of them.
  have digits : ∀ k : Fin 16, IsKept (Binary64.hexDigit k) := by decide
  exact digits ⟨n % 16, Nat.mod_lt n (by decide)⟩

theorem unitEscape_kept (n : Nat) : AllKept (unitEscape n) := by
  have two : AllKept [Binary64.hexDigit (n / 16 % 16), Binary64.hexDigit (n % 16)] :=
    .cons (hexDigit_kept _) (.cons (hexDigit_kept n) (by decide))
  rw [unitEscape, hexDigits_four]
  exact .cons (by decide) (.cons (by decide) (.cons (hexDigit_kept _) (.cons (hexDigit_kept _) two)))

theorem escapeChar_kept (c : Char) : AllKept (escapeChar c) := by
  fun_cases escapeChar c with
  | case8 =>
    rename_i printable
    rw [Bool.and_eq_true, decide_eq_true_eq, decide_eq_true_eq] at printable
    refine AllKept.cons ⟨by omega, ?_⟩ (by decide)
    rintro rfl
    exact absurd printable.1 (by decide)
  | case9 => exact unitEscape_kept _
  | case10 => exact (unitEscape_kept _).append (unitEscape_kept _)
  | _ => decide

theorem writeString_kept (text : String) {rest : List Char} (kept : AllKept rest) : AllKept (writeString text rest) := by
  have escaped : AllKept (text.toList.flatMap escapeChar) := by
    intro c member
    rcases List.mem_flatMap.mp member with ⟨d, -, written⟩
    exact escapeChar_kept d c written
  exact (escaped.append (kept.cons (by decide))).cons (by decide)

theorem numberChars_kept (n : Int) : AllKept (numberChars (.int n)) := by
  have digits : AllKept (Nat.toDigits 10 n.natAbs) := by
    intro c member
    have digit := isAsciiDigit_of_mem_toDigits member
    have other : c ≠ '\r' := ne_of_isAsciiDigit digit rfl
    rw [Text.isAsciiDigit, Bool.and_eq_true, decide_eq_true_eq, decide_eq_true_eq] at digit
    have bound : c.toNat ≤ '9'.toNat := digit.2
    exact ⟨Nat.lt_of_le_of_lt bound (by decide), other⟩
  rw [numberChars_int]
  split
  · exact digits.cons (by decide)
  · exact digits

theorem lead_kept (spacing : Spacing) (level : Nat) : AllKept (spacing.lead level) := by
  cases spacing with
  | line =>
    intro c member
    cases member
  | indented =>
    have blanks : AllKept (List.replicate (2 * level) ' ') := by
      intro c member
      rw [List.eq_of_mem_replicate member]
      decide
    exact blanks.cons (by decide)

theorem between_kept (spacing : Spacing) (level : Nat) : AllKept (spacing.between level) := by
  cases spacing with
  | line => exact .cons (by decide) (.cons (by decide) (by decide))
  | indented => exact (lead_kept .indented level).cons (by decide)

mutual

theorem write_kept (spacing : Spacing) (level : Nat) (v : Json) (exact : v.IsExact) {rest : List Char}
    (kept : AllKept rest) : AllKept (write spacing level v rest) := by
  match v with
  | .null | .bool true | .bool false =>
    rw [write]
    exact AllKept.append (by decide) kept
  | .num (.int n) =>
    rw [write]
    exact (numberChars_kept n).append kept
  | .num (.float _) => exact exact.elim
  | .str s =>
    rw [write]
    exact writeString_kept s kept
  | .arr [] | .obj [] =>
    rw [write]
    exact (kept.cons (by decide)).cons (by decide)
  | .arr (item :: items) =>
    rw [write]
    have closed := (lead_kept spacing level).append (kept.cons (c := ']') (by decide))
    have inside := write_kept spacing (level + 1) item exact.1 (writeItems_kept spacing (level + 1) items exact.2 closed)
    exact ((lead_kept spacing (level + 1)).append inside).cons (by decide)
  | .obj ((key, value) :: fields) =>
    rw [write]
    have closed := (lead_kept spacing level).append (kept.cons (c := '\x7d') (by decide))
    have inside := write_kept spacing (level + 1) value exact.1.1
      (writeFields_kept spacing (level + 1) fields exact.1.2 closed)
    have named := writeString_kept key ((inside.cons (c := ' ') (by decide)).cons (c := ':') (by decide))
    exact ((lead_kept spacing (level + 1)).append named).cons (by decide)

theorem writeItems_kept (spacing : Spacing) (level : Nat) (items : List Json) (exact : AllExact items)
    {rest : List Char} (kept : AllKept rest) : AllKept (writeItems spacing level items rest) := by
  match items with
  | [] => exact kept
  | item :: items =>
    rw [writeItems]
    have inside := write_kept spacing level item exact.1 (writeItems_kept spacing level items exact.2 kept)
    exact (between_kept spacing level).append inside

theorem writeFields_kept (spacing : Spacing) (level : Nat) (fields : Fields) (exact : FieldsExact fields)
    {rest : List Char} (kept : AllKept rest) : AllKept (writeFields spacing level fields rest) := by
  match fields with
  | [] => exact kept
  | (key, value) :: fields =>
    rw [writeFields]
    have inside := write_kept spacing level value exact.1 (writeFields_kept spacing level fields exact.2 kept)
    have named := writeString_kept key ((inside.cons (c := ' ') (by decide)).cons (c := ':') (by decide))
    exact (between_kept spacing level).append named

end

theorem decodeFile_indented {v : Json} (exact : v.IsExact) :
    Text.decodeFile v.indented.toUTF8.data.toList = .ok v.indented.toList := by
  apply Text.decodeFile_kept
  rw [indented, String.toList_ofList]
  exact write_kept .indented 0 v exact (by decide)

end Json

theorem Files.readText_document {files : Files} {path : String} {document : Json} (exact : document.IsExact)
    (found : files.find path = .ok (.file document.indented.toUTF8.data.toList)) :
    files.readText path = .ok document.indented.toList := by
  unfold readText
  rw [found]
  show (Text.decodeFile document.indented.toUTF8.data.toList).mapError FileFault.decoding = _
  rw [Json.decodeFile_indented exact]
  rfl

end GridRobot

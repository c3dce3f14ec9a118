import GridRobot.Proofs.Json.Reading

/-!
A value that is written as JSON text is read back from it, on one line or indented, whatever follows.
Doubles are left aside here, and so are objects in which a name stands twice.
-/
namespace GridRobot

theorem Fields.insert_fresh {fields : Fields} {key : String} (fresh : key ∉ fields.map Prod.fst)
    (value : Json) :
    fields.insert key value = fields ++ [(key, value)] := by
  induction fields with
  | nil => rfl
  | cons field rest ih =>
    rcases field with ⟨name, old⟩
    rw [List.map_cons, List.mem_cons, not_or] at fresh
    have other : (name == key) = false := by
      rw [beq_eq_false_iff_ne]
      exact fun same => fresh.1 same.symm
    rw [Fields.insert, other, ih fresh.2]
    rfl

namespace Json

mutual

/-- A value without doubles, in whose objects no name stands twice. -/
def IsExact : Json → Prop
  | .num (.float _) => False
  | .arr items => AllExact items
  | .obj fields => FieldsExact fields ∧ (fields.map Prod.fst).Nodup
  | _ => True

def AllExact : List Json → Prop
  | [] => True
  | item :: rest => IsExact item ∧ AllExact rest

def FieldsExact : List (String × Json) → Prop
  | [] => True
  | (_, value) :: rest => IsExact value ∧ FieldsExact rest

end

theorem skipSpace_gap {gap text : List Char} {c : Char} (spaces : ∀ s ∈ gap, isSpace s = true)
    (solid : isSpace c = false) : skipSpace (gap ++ c :: text) = c :: text := by
  unfold skipSpace
  rw [List.dropWhile_append_of_pos spaces, List.dropWhile_cons_of_neg (by simp [solid])]

theorem skipSpace_solid {text : List Char} {c : Char} (solid : isSpace c = false) :
    skipSpace (c :: text) = c :: text := by
  have spaces : ∀ s ∈ ([] : List Char), isSpace s = true := by simp
  exact skipSpace_gap spaces solid

namespace Spacing

theorem isSpace_lead (spacing : Spacing) (level : Nat) : ∀ c ∈ spacing.lead level, isSpace c = true := by
  cases spacing with
  | line => simp [lead]
  | indented =>
    intro c member
    rcases List.mem_cons.mp member with rfl | member
    · rfl
    · rw [(List.mem_replicate.mp member).2]
      rfl

theorem between_eq (spacing : Spacing) (level : Nat) :
    ∃ gap, spacing.between level = ',' :: gap ∧ ∀ c ∈ gap, isSpace c = true := by
  cases spacing with
  | line => exact ⟨[' '], rfl, by simp [isSpace]⟩
  | indented => exact ⟨_, rfl, isSpace_lead .indented level⟩

end Spacing

theorem ends_cons {c : Char} (rest : List Char) (digit : Text.isAsciiDigit c = false) (dot : c ≠ '.')
    (e : c ≠ 'e')
    (E : c ≠ 'E') : Ends (c :: rest) := by
  intro d head
  cases head
  exact ⟨digit, dot, e, E⟩

theorem ends_nil : Ends [] := by
  intro c head
  cases head

theorem ends_lead (spacing : Spacing) (level : Nat) {c : Char} (rest : List Char) (ends : Ends (c :: rest)) :
    Ends (spacing.lead level ++ c :: rest) := by
  cases spacing with
  | line => exact ends
  | indented => exact ends_cons _ rfl (by decide) (by decide) (by decide)

theorem ends_writeItems (spacing : Spacing) (level : Nat) (items : List Json) {rest : List Char}
    (ends : Ends rest) :
    Ends (writeItems spacing level items rest) := by
  cases items with
  | nil => exact ends
  | cons item items =>
    rcases spacing.between_eq level with ⟨gap, between, -⟩
    rw [writeItems, between]
    exact ends_cons _ rfl (by decide) (by decide) (by decide)

theorem ends_writeFields (spacing : Spacing) (level : Nat) (fields : Fields) {rest : List Char}
    (ends : Ends rest) :
    Ends (writeFields spacing level fields rest) := by
  cases fields with
  | nil => exact ends
  | cons field fields =>
    rcases spacing.between_eq level with ⟨gap, between, -⟩
    rw [writeFields, between]
    exact ends_cons _ rfl (by decide) (by decide) (by decide)

theorem write_cons (spacing : Spacing) (level : Nat) {v : Json} (exact : v.IsExact) (rest : List Char) :
    ∃ c text, write spacing level v rest = c :: text ∧ isSpace c = false ∧ c ≠ ']' ∧ c ≠ Char.ofNat 0xfeff := by
  match v with
  | .null => exact ⟨_, _, rfl, rfl, by decide, by decide⟩
  | .bool true => exact ⟨_, _, rfl, rfl, by decide, by decide⟩
  | .bool false => exact ⟨_, _, rfl, rfl, by decide, by decide⟩
  | .num (.int n) =>
    rcases numberChars_cons n with ⟨c, more, written, start⟩
    refine ⟨c, more ++ rest, by rw [write, written]; rfl, ?_⟩
    rcases start with digit | ⟨rfl, -⟩
    · have other {d : Char} (mark : Text.isAsciiDigit d = false) : c ≠ d := ne_of_isAsciiDigit digit mark
      refine ⟨?_, other rfl, other rfl⟩
      simp only [isSpace, Bool.or_eq_false_iff, beq_eq_false_iff_ne]
      exact ⟨⟨⟨other rfl, other rfl⟩, other rfl⟩, other rfl⟩
    · exact ⟨rfl, by decide, by decide⟩
  | .num (.float _) => exact exact.elim
  | .str s => exact ⟨_, _, rfl, rfl, by decide, by decide⟩
  | .arr [] => exact ⟨_, _, rfl, rfl, by decide, by decide⟩
  | .arr (item :: items) => exact ⟨_, _, by rw [write], rfl, by decide, by decide⟩
  | .obj [] => exact ⟨_, _, rfl, rfl, by decide, by decide⟩
  | .obj ((key, value) :: fields) => exact ⟨_, _, by rw [write], rfl, by decide, by decide⟩

section Steps

variable {text after middle next more rest : List Char} {v : Json} {s key : String} {done : List Json} {list : List Json}
  {before fields : Fields}

theorem value_string (read : Yields (string 1 [] text) s rest) :
    Yields (value ('"' :: text)) (.str s) rest := by
  rcases read with ⟨shorter, read⟩
  rw [value.eq_1, read]
  exact ⟨_, rfl⟩

theorem value_scalar {c : Char} (quote : c ≠ '"') (bracket : c ≠ '[') (brace : c ≠ '\x7b')
    (found : scalar? (c :: text) = some (v, rest)) : Yields (value (c :: text)) v rest := by
  rw [value.eq_4 (c :: text) (by rintro _ ⟨⟩; contradiction) (by rintro _ ⟨⟩; contradiction)
    (by rintro _ ⟨⟩; contradiction)]
  split
  · rename_i missing
    rw [found] at missing
    cases missing
  · rename_i same
    rw [found] at same
    cases same
    exact ⟨_, rfl⟩

theorem value_emptyList : Yields (value ('[' :: ']' :: rest)) (.arr []) rest := by
  have closes : skipSpace (']' :: rest) = ']' :: rest := skipSpace_solid rfl
  rw [value.eq_2]
  split
  · rename_i closed
    rw [closes] at closed
    cases closed
    exact ⟨_, rfl⟩
  · rename_i other
    exact (other rest closes).elim

theorem value_list (filled : ∀ after, skipSpace text ≠ ']' :: after)
    (read : Yields (items [] (skipSpace text)) list rest) : Yields (value ('[' :: text)) (.arr list) rest := by
  rcases read with ⟨shorter, read⟩
  rw [value.eq_2]
  split
  · rename_i closed
    exact (filled _ closed).elim
  · rw [read]
    exact ⟨_, rfl⟩

theorem value_emptyObject : Yields (value ('\x7b' :: '\x7d' :: rest)) (.obj []) rest := by
  have closes : skipSpace ('\x7d' :: rest) = '\x7d' :: rest := skipSpace_solid rfl
  rw [value.eq_3]
  split
  · rename_i closed
    rw [closes] at closed
    cases closed
    exact ⟨_, rfl⟩
  · rename_i other
    exact (other rest closes).elim

theorem value_object (filled : ∀ after, skipSpace text ≠ '\x7d' :: after)
    (read : Yields (members [] (skipSpace text)) fields rest) : Yields (value ('\x7b' :: text)) (.obj fields) rest := by
  rcases read with ⟨shorter, read⟩
  rw [value.eq_3]
  split
  · rename_i closed
    exact (filled _ closed).elim
  · rw [read]
    exact ⟨_, rfl⟩

theorem items_last (read : Yields (value text) v after) (closes : skipSpace after = ']' :: rest) :
    Yields (items done text) (done.reverse ++ [v]) rest := by
  rcases read with ⟨shorter, read⟩
  rw [items.eq_1, read]
  simp only [bind, Except.bind]
  split
  · rename_i closed
    rw [closes] at closed
    cases closed
    rw [← List.reverse_cons]
    exact ⟨_, rfl⟩
  · rename_i comma
    rw [closes] at comma
    cases comma
  · rename_i other _
    exact (other rest closes).elim

theorem items_more (read : Yields (value text) v after) (comma : skipSpace after = ',' :: more)
    (others : Yields (items (v :: done) (skipSpace more)) list rest) : Yields (items done text) list rest := by
  rcases read with ⟨shorter, read⟩
  rcases others with ⟨shorterOthers, others⟩
  rw [items.eq_1, read]
  simp only [bind, Except.bind]
  split
  · rename_i closed
    rw [comma] at closed
    cases closed
  · rename_i found
    rw [comma] at found
    cases found
    rw [others]
    exact ⟨_, rfl⟩
  · rename_i _ other
    exact (other more comma).elim

theorem members_last (name : Yields (string 1 [] text) key middle) (colon : skipSpace middle = ':' :: next)
    (read : Yields (value (skipSpace next)) v after) (closes : skipSpace after = '\x7d' :: rest) :
    Yields (members before ('"' :: text)) (before.insert key v) rest := by
  rcases name with ⟨shorterName, name⟩
  rcases read with ⟨shorter, read⟩
  rw [members.eq_1, name]
  simp only [bind, Except.bind]
  split
  · rename_i found
    rw [colon] at found
    cases found
    rw [read]
    dsimp only
    split
    · rename_i closed
      rw [closes] at closed
      cases closed
      exact ⟨_, rfl⟩
    · rename_i comma
      rw [closes] at comma
      cases comma
    · rename_i other _
      exact (other rest closes).elim
  · rename_i other
    exact (other next colon).elim

theorem members_more (name : Yields (string 1 [] text) key middle) (colon : skipSpace middle = ':' :: next)
    (read : Yields (value (skipSpace next)) v after) (comma : skipSpace after = ',' :: more)
    (others : Yields (members (before.insert key v) (skipSpace more)) fields rest) :
    Yields (members before ('"' :: text)) fields rest := by
  rcases name with ⟨shorterName, name⟩
  rcases read with ⟨shorter, read⟩
  rcases others with ⟨shorterOthers, others⟩
  rw [members.eq_1, name]
  simp only [bind, Except.bind]
  split
  · rename_i found
    rw [colon] at found
    cases found
    rw [read]
    dsimp only
    split
    · rename_i closed
      rw [comma] at closed
      cases closed
    · rename_i same
      rw [comma] at same
      cases same
      rw [others]
      exact ⟨_, rfl⟩
    · rename_i _ other
      exact (other more comma).elim
  · rename_i other
    exact (other next colon).elim

end Steps

theorem skipSpace_lead (spacing : Spacing) (level : Nat) {c : Char} (text : List Char)
    (solid : isSpace c = false) :
    skipSpace (spacing.lead level ++ c :: text) = c :: text :=
  skipSpace_gap (spacing.isSpace_lead level) solid

theorem skipSpace_write (spacing : Spacing) (level : Nat) {v : Json} (exact : v.IsExact) {gap : List Char}
    (spaces : ∀ s ∈ gap, isSpace s = true) (rest : List Char) :
    skipSpace (gap ++ write spacing level v rest) = write spacing level v rest := by
  rcases write_cons spacing level exact rest with ⟨c, text, written, solid, -⟩
  rw [written]
  exact skipSpace_gap spaces solid

theorem string_writeString (s : String) (rest : List Char) :
    Yields (string 1 [] (s.toList.flatMap escapeChar ++ '"' :: rest)) s rest := by
  have read := string_written s.toList 1 [] rest
  rwa [List.reverse_nil, List.nil_append, String.ofList_toList] at read

theorem skipSpace_writeString {gap : List Char} (spaces : ∀ c ∈ gap, isSpace c = true) (s : String)
    (rest : List Char) :
    skipSpace (gap ++ writeString s rest) = writeString s rest := skipSpace_gap spaces rfl

-- By the size of the value. Lists and objects are read from any item on, with what came before in front.
mutual

theorem value_write (spacing : Spacing) (level : Nat) (v : Json) (exact : v.IsExact) {rest : List Char}
    (ends : Ends rest) :
    Yields (value (write spacing level v rest)) v rest := by
  match v with
  | .null => exact value_scalar (by decide) (by decide) (by decide) rfl
  | .bool true => exact value_scalar (by decide) (by decide) (by decide) rfl
  | .bool false => exact value_scalar (by decide) (by decide) (by decide) rfl
  | .num (.float _) => exact exact.elim
  | .num (.int n) =>
    have found := scalar?_int n ends
    rcases numberChars_cons n with ⟨c, more, written, start⟩
    rw [written] at found
    rw [write, written]
    rcases start with digit | ⟨rfl, -⟩
    · have other {d : Char} (mark : Text.isAsciiDigit d = false) : c ≠ d := ne_of_isAsciiDigit digit mark
      exact value_scalar (other rfl) (other rfl) (other rfl) found
    · exact value_scalar (by decide) (by decide) (by decide) found
  | .str s =>
    rw [write]
    exact value_string (string_writeString s rest)
  | .arr [] =>
    rw [write]
    exact value_emptyList
  | .arr (item :: items) =>
    rcases exact with ⟨first, others⟩
    rw [write]
    have skipped := skipSpace_write spacing (level + 1) first (spacing.isSpace_lead (level + 1))
      (writeItems spacing (level + 1) items (spacing.lead level ++ ']' :: rest))
    apply value_list
    · -- The first item does not start with the bracket that would close the list.
      intro after closed
      rcases write_cons spacing (level + 1) first
        (writeItems spacing (level + 1) items (spacing.lead level ++ ']' :: rest)) with
        ⟨c, text, written, -, opens, -⟩
      rw [skipped, written] at closed
      cases closed
      exact opens rfl
    · rw [skipped]
      exact items_write spacing (level + 1) level [] item items first others rest
  | .obj [] =>
    rw [write]
    exact value_emptyObject
  | .obj ((key, value) :: fields) =>
    rcases exact with ⟨⟨first, others⟩, distinct⟩
    rw [write]
    have skipped := skipSpace_writeString (spacing.isSpace_lead (level + 1)) key (':' :: ' ' ::
      write spacing (level + 1) value (writeFields spacing (level + 1) fields (spacing.lead level ++ '\x7d' :: rest)))
    apply value_object
    · intro after closed
      rw [skipped] at closed
      cases closed
    · rw [skipped]
      exact members_write spacing (level + 1) level [] key value fields first others distinct rest
termination_by sizeOf v
decreasing_by all_goals simp

theorem items_write (spacing : Spacing) (level outer : Nat) (done : List Json) (item : Json)
    (items : List Json)
    (first : item.IsExact) (others : AllExact items) (rest : List Char) :
    Yields (Json.items done (write spacing level item (writeItems spacing level items (spacing.lead outer ++ ']' :: rest))))
      (done.reverse ++ item :: items) rest := by
  have closing : Ends (spacing.lead outer ++ ']' :: rest) :=
    ends_lead spacing outer rest (ends_cons rest rfl (by decide) (by decide) (by decide))
  have read := value_write spacing level item first (ends_writeItems spacing level items closing)
  match items with
  | [] => exact items_last read (skipSpace_lead spacing outer rest rfl)
  | next :: more =>
    rcases others with ⟨second, others⟩
    rcases spacing.between_eq level with ⟨gap, between, spaces⟩
    have onward := items_write spacing level outer (item :: done) next more second others rest
    rw [List.reverse_cons, List.append_assoc, List.singleton_append] at onward
    have comma : skipSpace (writeItems spacing level (next :: more) (spacing.lead outer ++ ']' :: rest)) =
        ',' :: (gap ++ write spacing level next (writeItems spacing level more (spacing.lead outer ++ ']' :: rest))) := by
      rw [writeItems, between]
      exact skipSpace_solid rfl
    apply items_more read comma
    rw [skipSpace_write spacing level second spaces]
    exact onward
termination_by sizeOf (item :: items)
decreasing_by all_goals simp <;> omega

theorem members_write (spacing : Spacing) (level outer : Nat) (before : Fields) (key : String)
    (v : Json) (fields : Fields)
    (first : v.IsExact) (others : FieldsExact fields)
    (distinct : ((before ++ (key, v) :: fields).map Prod.fst).Nodup) (rest : List Char) :
    Yields (members before (writeString key (':' :: ' ' :: write spacing level v
      (writeFields spacing level fields (spacing.lead outer ++ '\x7d' :: rest))))) (before ++ (key, v) :: fields) rest := by
  have closing : Ends (spacing.lead outer ++ '\x7d' :: rest) :=
    ends_lead spacing outer rest (ends_cons rest rfl (by decide) (by decide) (by decide))
  have read := value_write spacing level v first (ends_writeFields spacing level fields closing)
  -- No name stands twice, so the reader puts the field behind the others.
  have fresh : key ∉ before.map Prod.fst := by
    rw [List.map_append, List.map_cons, List.nodup_append] at distinct
    intro member
    exact distinct.2.2 key member key (List.mem_cons_self ..) rfl
  have added := Fields.insert_fresh fresh v
  have name := string_writeString key (':' :: ' ' :: write spacing level v
    (writeFields spacing level fields (spacing.lead outer ++ '\x7d' :: rest)))
  have blank : ∀ c ∈ [' '], isSpace c = true := by simp [isSpace]
  have spaced := skipSpace_write spacing level first blank
    (writeFields spacing level fields (spacing.lead outer ++ '\x7d' :: rest))
  rw [← spaced] at read
  match fields with
  | [] =>
    rw [← added]
    exact members_last name (skipSpace_solid rfl) read (skipSpace_lead spacing outer rest rfl)
  | (nextKey, next) :: more =>
    rcases others with ⟨second, others⟩
    rcases spacing.between_eq level with ⟨gap, between, spaces⟩
    have moved : before ++ (key, v) :: (nextKey, next) :: more = before.insert key v ++ (nextKey, next) :: more := by
      rw [added, List.append_assoc, List.singleton_append]
    rw [moved] at distinct ⊢
    have onward := members_write spacing level outer (before.insert key v) nextKey next more second others distinct rest
    have comma : skipSpace (writeFields spacing level ((nextKey, next) :: more) (spacing.lead outer ++ '\x7d' :: rest)) =
        ',' :: (gap ++ writeString nextKey (':' :: ' ' :: write spacing level next
          (writeFields spacing level more (spacing.lead outer ++ '\x7d' :: rest)))) := by
      rw [writeFields, between]
      exact skipSpace_solid rfl
    apply members_more name (skipSpace_solid rfl) read comma
    rw [skipSpace_writeString spaces]
    exact onward
termination_by sizeOf ((key, v) :: fields)
decreasing_by all_goals simp <;> omega

end

theorem parse_write (spacing : Spacing) {v : Json} (exact : v.IsExact) :
    parse (write spacing 0 v []) = .ok v := by
  rcases value_write spacing 0 v exact ends_nil with ⟨shorter, read⟩
  rcases write_cons spacing 0 exact [] with ⟨c, text, written, solid, -, unmarked⟩
  have skipped : skipSpace (write spacing 0 v []) = write spacing 0 v [] := by
    rw [written]
    exact skipSpace_solid solid
  have whole : document (write spacing 0 v []) = .ok v := by
    rw [document, skipped, read]
    rfl
  have noMark : ((write spacing 0 v []).head? == some (Char.ofNat 0xfeff)) = false := by
    rw [written, List.head?_cons, beq_eq_false_iff_ne]
    intro same
    exact unmarked (Option.some.inj same)
  simp only [parse, noMark, parseUnmarked, whole]
  rfl

theorem parse_indented {v : Json} (exact : v.IsExact) : parse v.indented.toList = .ok v := by
  rw [indented, String.toList_ofList]
  exact parse_write .indented exact

end Json

end GridRobot

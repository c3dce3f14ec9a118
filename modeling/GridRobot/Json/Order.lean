import GridRobot.Json

/-!
Values in order, and values as keys. Numbers are ordered by quantity and truth values count as numbers;
no other value has an order here. Lists and objects cannot be looked up.
-/
namespace GridRobot

inductive Relation
  | less | atMost | greater | atLeast
deriving DecidableEq, Inhabited

namespace Relation

def symbol : Relation → String
  | .less => "<"
  | .atMost => "<="
  | .greater => ">"
  | .atLeast => ">="

def holds : Relation → Number → Number → Bool
  | .less, a, b => a.lt b
  | .atMost, a, b => a.le b
  | .greater, a, b => b.lt a
  | .atLeast, a, b => b.le a

end Relation

structure OrderFault where
  relation : Relation
  left : String
  right : String
deriving DecidableEq

def OrderFault.message (fault : OrderFault) : String :=
  "'" ++ fault.relation.symbol ++ "' not supported between instances of '" ++ fault.left ++ "' and '" ++
    fault.right ++ "'"

def Relation.check (relation : Relation) (a b : Json) : Except OrderFault Bool :=
  match a.number?, b.number? with
  | some m, some n => .ok (relation.holds m n)
  | _, _ => .error ⟨relation, a.kindName, b.kindName⟩

structure KeyFault where
  kind : String
deriving DecidableEq

def KeyFault.message (fault : KeyFault) : String := "unhashable type: '" ++ fault.kind ++ "'"

def Json.key : Json → Except KeyFault Json
  | .arr items => .error ⟨(Json.arr items).kindName⟩
  | .obj fields => .error ⟨(Json.obj fields).kindName⟩
  | value => .ok value

theorem Json.same_number {a : Json} {n : Number} (quantity : a.number? = some n) (other : Json) :
    other.same a = (match other.number? with
      | some k => k.same n
      | none => false) := by
  cases other with
  | bool c =>
    simp only [same, quantity]
    rfl
  | num k =>
    simp only [same, quantity]
    rfl
  | null | str | arr | obj =>
    cases a with
    | bool | num => rfl
    | null | str | arr | obj => cases quantity

/-- A value that equals a key is a key, and what equals one of them equals the other. -/
theorem Json.key_of_same {a b : Json} (usable : b.key = .ok b) (same : a.same b = true) :
    a.key = .ok a ∧ ∀ other : Json, other.same a = other.same b := by
  have numbers {m : Number} (first : a.number? = some m) (other : Json) : other.same a = other.same b := by
    cases second : b.number? with
    | none => cases a <;> cases first <;> simp [Json.same, second] at same
    | some n =>
      simp only [same_number second, first, Number.same_eq] at same
      simp only [same_number first, same_number second, Number.same_eq, eq_of_beq same]
  cases a with
  | bool | num => exact ⟨rfl, numbers rfl⟩
  | null =>
    cases b with
    | null => exact ⟨rfl, fun _ => rfl⟩
    | _ => cases same
  | str s =>
    cases b with
    | str t => exact ⟨rfl, fun _ => by rw [show s = t from eq_of_beq same]⟩
    | _ => cases same
  | arr | obj =>
    cases b with
    | arr | obj => cases usable
    | _ => cases same

theorem Relation.check_of_numbers {relation : Relation} {a b : Json} {m n : Number} (left : a.number? = some m)
    (right : b.number? = some n) : relation.check a b = .ok (relation.holds m n) := by
  rw [check, left, right]

theorem Relation.numbers_of_check {relation : Relation} {a b : Json} {value : Bool}
    (checked : relation.check a b = .ok value) : (∃ m, a.number? = some m) ∧ ∃ n, b.number? = some n := by
  unfold check at checked
  split at checked
  · rename_i m n left right
    exact ⟨⟨m, left⟩, n, right⟩
  · cases checked

theorem Relation.check_int (relation : Relation) (a b : Int) :
    relation.check (.int a) (.int b) = .ok (relation.holds (.int a) (.int b)) := rfl

theorem Relation.not_atMost_of_greater {a b : Json} (greater : Relation.greater.check a b = .ok true) :
    Relation.atMost.check a b = .ok false := by
  unfold check at greater ⊢
  split at greater
  · exact congrArg Except.ok (Number.not_le_of_lt (Except.ok.inj greater))
  · cases greater

end GridRobot

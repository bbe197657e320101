import RuntimeContracts.Text.Shape

/-!
# Script values

The values that scripted predicates, targets and bodies work on: unit, truth values, 64-bit
integers, texts, lists, optional values and bare names. Two values are equal if they are built
alike.
-/

namespace RuntimeContracts.Script

inductive Value where
  | unit
  | bool (b : Bool)
  | int (n : Int64)
  | text (s : String)
  | list (items : List Value)
  | present (v : Value)
  | absent
  | variant (name : String)
deriving Inhabited

namespace Value

mutual

def beq : Value → Value → Bool
  | unit, unit => true
  | bool a, bool b => a == b
  | int a, int b => a == b
  | text a, text b => a == b
  | list as, list bs => beqItems as bs
  | present a, present b => beq a b
  | absent, absent => true
  | variant a, variant b => a == b
  | _, _ => false

def beqItems : List Value → List Value → Bool
  | [], [] => true
  | a :: as, b :: bs => beq a b && beqItems as bs
  | _, _ => false

end

mutual

theorem beq_refl : (a : Value) → beq a a = true
  | unit | absent => rfl
  | bool a => by simp [beq]
  | int a => by simp [beq]
  | text a => by simp [beq]
  | variant a => by simp [beq]
  | present a => by simpa [beq] using beq_refl a
  | list as => by simpa [beq] using beqItems_refl as

theorem beqItems_refl : (as : List Value) → beqItems as as = true
  | [] => rfl
  | a :: as => by simp [beqItems, beq_refl a, beqItems_refl as]

end

mutual

theorem eq_of_beq : (a b : Value) → beq a b = true → a = b
  | unit, b, h => by cases b <;> simp_all [beq]
  | absent, b, h => by cases b <;> simp_all [beq]
  | bool a, b, h => by cases b <;> simp_all [beq]
  | int a, b, h => by cases b <;> simp_all [beq]
  | text a, b, h => by cases b <;> simp_all [beq]
  | variant a, b, h => by cases b <;> simp_all [beq]
  | present a, b, h => by
    cases b with
    | present b => rw [eq_of_beq a b (by simpa [beq] using h)]
    | _ => simp [beq] at h
  | list as, b, h => by
    cases b with
    | list bs => rw [eq_of_beqItems as bs (by simpa [beq] using h)]
    | _ => simp [beq] at h

theorem eq_of_beqItems : (as bs : List Value) → beqItems as bs = true → as = bs
  | [], bs, h => by cases bs <;> simp_all [beqItems]
  | a :: as, bs, h => by
    cases bs with
    | nil => simp [beqItems] at h
    | cons b bs =>
      rw [beqItems, Bool.and_eq_true] at h
      rw [eq_of_beq a b h.1, eq_of_beqItems as bs h.2]

end

theorem beq_iff {a b : Value} : beq a b = true ↔ a = b :=
  ⟨eq_of_beq a b, fun h => h ▸ beq_refl a⟩

instance : DecidableEq Value := fun _ _ => decidable_of_iff _ beq_iff

mutual

def shape : Value → Shape
  | unit => .word "()"
  | bool b => .flag b
  | int n => .word (toString n.toInt)
  | text s => .quoted s
  | list items => .list (itemShapes items)
  | present v => .tuple "Some" [shape v]
  | absent => .word "None"
  | variant name => .word name

def itemShapes : List Value → List Shape
  | [] => []
  | v :: rest => shape v :: itemShapes rest

end

instance : Describe Value := ⟨shape⟩

/-- Texts are measured in bytes of their encoding, lists in items; nothing else has a length. -/
def length? : Value → Option Nat
  | text s => some s.utf8ByteSize
  | list items => some items.length
  | _ => none

end Value
end RuntimeContracts.Script

/-!
# Objects by name

A finite map from names to objects, kept in the order in which the names first appeared. Inserting
under a name that is taken replaces the object there.
-/

namespace RuntimeContracts

structure Named (α : Type) where
  entries : List (String × α)

namespace Named

variable {α : Type}

def empty : Named α := ⟨[]⟩

def find (name : String) : List (String × α) → Option α
  | [] => none
  | (key, a) :: rest => if key = name then some a else find name rest

def replace (name : String) (a : α) : List (String × α) → List (String × α)
  | [] => [(name, a)]
  | (key, b) :: rest => if key = name then (name, a) :: rest else (key, b) :: replace name a rest

def get? (objects : Named α) (name : String) : Option α := find name objects.entries

def insert (objects : Named α) (name : String) (a : α) : Named α :=
  ⟨replace name a objects.entries⟩

def erase (objects : Named α) (name : String) : Named α :=
  ⟨objects.entries.filter (·.1 ≠ name)⟩

@[simp] theorem get?_empty (name : String) : (empty : Named α).get? name = none := rfl

theorem find_replace (name key : String) (a : α) (entries : List (String × α)) :
    find key (replace name a entries) = if key = name then some a else find key entries := by
  induction entries with
  | nil => simp [replace, find, eq_comm]
  | cons entry rest ih => grind [replace, find]

@[simp] theorem get?_insert (objects : Named α) (name key : String) (a : α) :
    (objects.insert name a).get? key = if key = name then some a else objects.get? key :=
  find_replace name key a objects.entries

theorem find_filter_ne (name key : String) (entries : List (String × α)) :
    find key (entries.filter (·.1 ≠ name)) = if key = name then none else find key entries := by
  induction entries with
  | nil => simp [find]
  | cons entry rest ih => grind [find]

@[simp] theorem get?_erase (objects : Named α) (name key : String) :
    (objects.erase name).get? key = if key = name then none else objects.get? key :=
  find_filter_ne name key objects.entries

end Named
end RuntimeContracts

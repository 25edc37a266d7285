/-!
# Lists kept in key order

Every level of a resource table — packages, types, entries, slots — is a list
of keyed items in **increasing** key order, with at most one item for a key.
The same four operations serve all levels: `get?` finds the item of a key,
`update` replaces it or puts a new one where its key belongs, `remove` drops it,
and `first?` finds the first item with some property.

Each operation walks the list once and stops where the key would have to stand,
so on an increasing list nothing is overlooked and nothing is doubled.
-/

namespace AppResources

/-- Items with their keys, in list order. -/
abbrev Keyed (κ β : Type) := List (κ × β)

namespace Keyed
variable {κ β : Type}

/-- The keys increase strictly along the list. -/
def Increasing [Ord κ] (items : Keyed κ β) : Prop :=
  items.Pairwise fun a b => compare a.1 b.1 = .lt

/-- The item of a key. -/
def get? [Ord κ] (items : Keyed κ β) (key : κ) : Option β :=
  match items with
  | [] => none
  | (k, b) :: rest =>
    match compare key k with
    | .lt => none
    | .eq => some b
    | .gt => get? rest key

/-- Gives the key the item that `change` makes of its present one; `change`
receives `none` when the key is new, and the new item is put in key order. -/
def update [Ord κ] (items : Keyed κ β) (key : κ) (change : Option β → β) : Keyed κ β :=
  match items with
  | [] => [(key, change none)]
  | (k, b) :: rest =>
    match compare key k with
    | .lt => (key, change none) :: (k, b) :: rest
    | .eq => (k, change (some b)) :: rest
    | .gt => (k, b) :: update rest key change

/-- Changes the item of a key, and nothing when the key is absent. -/
def modify [Ord κ] (items : Keyed κ β) (key : κ) (change : β → β) : Keyed κ β :=
  match items with
  | [] => []
  | (k, b) :: rest =>
    match compare key k with
    | .lt => (k, b) :: rest
    | .eq => (k, change b) :: rest
    | .gt => (k, b) :: modify rest key change

/-- Drops the item of a key. -/
def remove [Ord κ] (items : Keyed κ β) (key : κ) : Keyed κ β :=
  match items with
  | [] => []
  | (k, b) :: rest =>
    match compare key k with
    | .lt => (k, b) :: rest
    | .eq => rest
    | .gt => (k, b) :: remove rest key

/-- The first item with a property, and its key. -/
def first? (items : Keyed κ β) (p : β → Bool) : Option (κ × β) :=
  items.find? fun item => p item.2

/-- Changes every item and no key. -/
def mapItems {γ : Type} (items : Keyed κ β) (f : β → γ) : Keyed κ γ :=
  items.map fun item => (item.1, f item.2)

variable [Ord κ]

@[simp] theorem get?_nil (key : κ) : get? ([] : Keyed κ β) key = none := rfl

@[simp] theorem update_nil (key : κ) (change : Option β → β) :
    update [] key change = [(key, change none)] := rfl

theorem increasing_nil : Increasing ([] : Keyed κ β) := List.Pairwise.nil

end Keyed

end AppResources

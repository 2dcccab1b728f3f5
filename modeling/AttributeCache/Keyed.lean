/-!
# Entries sorted by key

A list of entries whose keys ascend in code point order, each key once.
Inserting under a key that is there replaces its value and keeps the order,
so of two entries with one key the later one wins.
-/

namespace AttributeCache.Keyed

/-- The entries with one more, in its place. -/
def insert (key : String) (value : α) : List (String × α) → List (String × α)
  | [] => [(key, value)]
  | (k, v) :: rest =>
    match compare key k with
    | .lt => (key, value) :: (k, v) :: rest
    | .eq => (key, value) :: rest
    | .gt => (k, v) :: insert key value rest

/-- The value under a key. -/
def find? (key : String) : List (String × α) → Option α
  | [] => none
  | (k, v) :: rest => if k = key then some v else find? key rest

end AttributeCache.Keyed

/-!
# Ordered members — values under names, in ascending order, each name once
-/

namespace TableCompiler.Text

/-- Puts a value in its place by name; a value of that name gives way. -/
def insertOrdered {α : Type} (name : String) (value : α) :
    List (String × α) → List (String × α)
  | [] => [(name, value)]
  | (k, v) :: rest =>
    if name = k then (name, value) :: rest
    else if name < k then (name, value) :: (k, v) :: rest
    else (k, v) :: insertOrdered name value rest

/-- The last value given for each name, in ascending order of the names. -/
def ordered {α : Type} (members : List (String × α)) : List (String × α) :=
  members.foldl (fun sorted m => insertOrdered m.1 m.2 sorted) []

end TableCompiler.Text

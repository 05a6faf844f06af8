/-!
# Repeated names — the first name in a list that stood there before
-/

namespace TableCompiler.Text

/-- The first name that was seen already or stands earlier in the list. -/
def firstRepeatedFrom (seen : List String) : List String → Option String
  | [] => none
  | name :: rest =>
    if name ∈ seen then some name else firstRepeatedFrom (name :: seen) rest

/-- The first name that stands earlier in the list. -/
def firstRepeated? (names : List String) : Option String :=
  firstRepeatedFrom [] names

end TableCompiler.Text

import DiceLang.Roller.Basic

/-!
# Scripts that can be looked into

A scripted roller can be asked whether it has values left. To tell, it takes the next value out of
its list ahead of time and keeps it until it is rolled, so that asking changes the state of the
roller although it must not change what is rolled.
-/

namespace DiceLang

/-- The values of a scripted roller, the next of which may have been taken out ahead of time. -/
structure Script where
  /-- What was seen ahead and has not been rolled yet: a value, or that there is none. -/
  ahead? : Option (Option UInt64)
  /-- The values that have not been looked at. -/
  rest : List UInt64
  /-- The end is seen only where no value is left. -/
  ended : ahead? = some none → rest = []

namespace Script

/-- A script of which nothing has been seen. -/
def ofList (values : List UInt64) : Script :=
  ⟨none, values, nofun⟩

/-- The values that are still to be rolled, seen or not. -/
def left (script : Script) : List UInt64 :=
  script.ahead?.join.toList ++ script.rest

/-- Takes the next value, if there is one. -/
def next (script : Script) : Option UInt64 × Script :=
  match script.ahead? with
  | some seen => (seen, ofList script.rest)
  | none => (script.rest.head?, ofList script.rest.tail)

/-- Looks at the next value, unless that has been done before. -/
def look (script : Script) : Script :=
  match script.ahead? with
  | some _ => script
  | none => ⟨some script.rest.head?, script.rest.tail, by cases script.rest <;> simp⟩

/-- Whether a value is left, for which the script is looked into. -/
def canRoll (script : Script) : Bool × Script :=
  (script.look.ahead?.join.isSome, script.look)

@[simp]
theorem left_ofList (values : List UInt64) : (ofList values).left = values :=
  rfl

/-- Looking ahead takes nothing away. -/
@[simp]
theorem left_look (script : Script) : script.look.left = script.left := by
  obtain ⟨ahead?, rest, ended⟩ := script
  cases ahead? with
  | some seen => rfl
  | none => cases rest <;> rfl

/-- Taking a value answers the first one that is left. -/
theorem next_fst (script : Script) : script.next.1 = script.left.head? := by
  obtain ⟨ahead?, rest, ended⟩ := script
  rcases ahead? with _ | _ | value
  · rfl
  · have used : rest = [] := ended rfl
    subst used
    rfl
  · rfl

/-- Taking a value leaves the others. -/
theorem left_next_snd (script : Script) : script.next.2.left = script.left.tail := by
  obtain ⟨ahead?, rest, ended⟩ := script
  rcases ahead? with _ | _ | value
  · rfl
  · have used : rest = [] := ended rfl
    subst used
    rfl
  · rfl

/-- A value can be rolled exactly if one is left. -/
theorem canRoll_fst (script : Script) : script.canRoll.1 = !script.left.isEmpty := by
  obtain ⟨ahead?, rest, ended⟩ := script
  rcases ahead? with _ | _ | value
  · cases rest <;> rfl
  · have used : rest = [] := ended rfl
    subst used
    rfl
  · rfl

end Script

/-- Hands out the values of a script in order, whatever the sides, also those that were looked at
ahead of time. Once the script is used up, every further roll is a fault. -/
def Roller.lookahead : Roller Script where
  rollDie _ := fun script =>
    match script.next with
    | (some face, rest) => .ok face rest
    | (none, rest) => .error .scriptFinished rest

end DiceLang

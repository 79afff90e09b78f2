import RingKeeper.Fault

/-!
# Settings read from the environment

A schema lists the fields of some settings, each with the name of its variable and the type of its
values. The variables are visited in their order. Names are compared without regard to case, and
variables that no field claims are passed over. The first problem met ends the reading; that a
field is missing is noticed last.
-/

namespace RingKeeper

/-- The variables of a process, in order, each name once. -/
abbrev Environment : Type := List (String × String)

/-- Gives a name a value. A name that is present keeps its place. -/
def Environment.set (env : Environment) (name value : String) : Environment :=
  match env with
  | [] => [(name, value)]
  | (n, v) :: rest =>
    if n = name then (n, value) :: rest else (n, v) :: Environment.set rest name value

/-- The environment of a list of settings, of which a later one overrides an earlier one. -/
def Environment.ofPairs (pairs : List (String × String)) : Environment :=
  pairs.foldl (fun env p => env.set p.1 p.2) []

/--
The lower-case form of a character as far as it is ASCII. Besides A to Z only the Kelvin sign has
one, and field names are ASCII, so nothing else can make a variable match a field.
-/
def lowerChar (c : Char) : Char := if c = '\u212A' then 'k' else c.toLower

def lowerName (name : String) : String := String.ofList (name.toList.map lowerChar)

/-- A value that was read from the variable of this name, or what is wrong with it. -/
def readAs {α : Type} (r : Except ValueProblem α) (name value : String) :
    Except EnvironmentProblem α :=
  match r with
  | .ok a => .ok a
  | .error p => .error (.unreadable p value name)

/-- The fields of some settings. -/
structure Schema where
  Field : Type
  [decidableEq : DecidableEq Field]
  /-- All fields, in declared order. -/
  fields : List Field
  /-- The lower-case name of the field's variable. -/
  key : Field → String
  Value : Field → Type
  /-- Reads the value of the variable with the given name. -/
  read : (f : Field) → (name value : String) → Except EnvironmentProblem (Value f)

namespace Schema

instance (s : Schema) : DecidableEq s.Field := s.decidableEq

/-- The values found so far. -/
def Draft (s : Schema) : Type := (f : s.Field) → Option (s.Value f)

def Draft.empty (s : Schema) : s.Draft := fun _ => none

def Draft.set {s : Schema} (d : s.Draft) (f : s.Field) (v : s.Value f) : s.Draft := fun g =>
  if h : f = g then some (h ▸ v) else d g

@[simp] theorem Draft.set_self {s : Schema} (d : s.Draft) (f : s.Field) (v : s.Value f) :
    d.set f v f = some v := by
  simp [Draft.set]

@[simp] theorem Draft.set_of_ne {s : Schema} (d : s.Draft) {f g : s.Field} (v : s.Value f)
    (h : f ≠ g) : d.set f v g = d g := by
  simp [Draft.set, h]

/-- The field that a variable of this name belongs to. -/
def field? (s : Schema) (name : String) : Option s.Field :=
  s.fields.find? fun f => decide (s.key f = lowerName name)

/-- Takes one variable into the draft. A second variable for a field is refused unread. -/
def visit (s : Schema) (d : s.Draft) (name value : String) :
    Except EnvironmentProblem s.Draft :=
  match s.field? name with
  | none => .ok d
  | some f =>
    if (d f).isSome then .error (.repeated (s.key f))
    else match s.read f name value with
      | .ok v => .ok (d.set f v)
      | .error e => .error e

/-- Takes the variables into the draft one after the other. -/
def visitAll (s : Schema) (d : s.Draft) : Environment → Except EnvironmentProblem s.Draft
  | [] => .ok d
  | (name, value) :: env =>
    match s.visit d name value with
    | .ok d => s.visitAll d env
    | .error e => .error e

/-- The values that an environment gives to the fields. -/
def draft (s : Schema) (env : Environment) : Except EnvironmentProblem s.Draft :=
  s.visitAll (Draft.empty s) env

/-- The value of a field that has no default. -/
def Draft.need {s : Schema} (d : s.Draft) (f : s.Field) : Except EnvironmentProblem (s.Value f) :=
  match d f with
  | some v => .ok v
  | none => .error (.missing (s.key f))

end Schema

end RingKeeper

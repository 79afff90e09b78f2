import RingKeeper.Settings.Schema
import RingKeeper.Text.Pattern.Grammar

/-!
# Logging

Which messages of a program are shown is set by a variable of its environment: a list of directives,
and perhaps a pattern. A directive gives a threshold, for all messages or for those of sources whose
names begin as it says; the one with the longest name decides. A pattern has to be in the message.
-/

namespace RingKeeper.Program

inductive Level where
  | info
  | error
deriving DecidableEq, Repr

structure Message where
  level : Level
  text : String
deriving DecidableEq, Repr

/-- How much is shown, from nothing to everything. -/
inductive Threshold where
  | off
  | error
  | warn
  | info
  | debug
  | trace
deriving DecidableEq, Repr

namespace Threshold

def all : List (String × Threshold) :=
  [("OFF", off), ("ERROR", error), ("WARN", warn), ("INFO", info), ("DEBUG", debug),
    ("TRACE", trace)]

/-- The threshold of this name, in any case. -/
def ofText? (s : List Char) : Option Threshold :=
  (all.find? fun t => decide (t.1.toList = s.map Char.toUpper)).map (·.2)

def allows : Threshold → Level → Bool
  | off, _ => false
  | error, l => decide (l = .error)
  | warn, l => decide (l = .error)
  | _, _ => true

end Threshold

/-- A threshold for the sources whose names begin like this. -/
structure Directive where
  /-- Absent in a directive for all sources. -/
  source : Option (List Char)
  threshold : Threshold
deriving DecidableEq, Repr

namespace Directive

/-- The parts of a text between the separators, of which there is one more than separators. -/
def split (separator : Char) (s : List Char) : List (List Char) := s.splitOn separator

/-- The directive that a text is, if it is one. -/
def ofText? (s : List Char) : Option Directive :=
  match split '=' s with
  | [source] =>
    match Threshold.ofText? source with
    | some threshold => some ⟨none, threshold⟩
    | none => some ⟨some source, .trace⟩
  | [source, threshold] =>
    let threshold := Text.trim threshold
    if threshold.isEmpty then some ⟨some source, .trace⟩
    else (Threshold.ofText? threshold).map fun threshold => ⟨some source, threshold⟩
  | _ => none

/-- Adds a directive, or puts it in place of the one for the same sources. -/
def add (ds : List Directive) (d : Directive) : List Directive :=
  if ds.any fun e => decide (e.source = d.source) then
    ds.map fun e => if e.source = d.source then d else e
  else ds ++ [d]

/-- The directives that a text lists, without the parts that are none. -/
def listOf (s : List Char) : List Directive :=
  (((split ',' s).map Text.trim).filter fun part => !part.isEmpty).filterMap ofText?
    |>.foldl add []

/-- How specific a directive is. -/
def weight (d : Directive) : Nat := (d.source.getD []).length

def appliesTo (d : Directive) (source : String) : Bool :=
  d.source.all fun name => name.isPrefixOf source.toList

end Directive

/-- What is shown of the messages. -/
structure LogFilter where
  directives : List Directive
  pattern : Option Text.Pattern := none
deriving DecidableEq, Repr

namespace LogFilter

/-- Without any directive only errors are shown. -/
def ofDirectives (ds : List Directive) : List Directive :=
  if ds.isEmpty then [⟨none, .error⟩] else ds

/-- The filter that a text sets: directives, and perhaps a slash and a pattern. -/
def ofText (spec : String) : LogFilter :=
  match Directive.split '/' spec.toList with
  | [ds] => ⟨ofDirectives (Directive.listOf ds), none⟩
  | [ds, pattern] =>
    ⟨ofDirectives (Directive.listOf ds), Text.Pattern.ofText? (String.ofList pattern)⟩
  | _ => ⟨ofDirectives [], none⟩

/-- The directive that decides about a source: the most specific one, of several the last. -/
def decisive? (f : LogFilter) (source : String) : Option Directive :=
  (f.directives.filter (Directive.appliesTo · source)).foldl
    (fun best d =>
      match best with
      | some b => if b.weight ≤ d.weight then some d else best
      | none => some d)
    none

def shows (f : LogFilter) (source : String) (m : Message) : Bool :=
  ((f.decisive? source).any fun d => d.threshold.allows m.level)
    && f.pattern.all fun p => p.isIn m.text

end LogFilter

/-- The source of a program's messages, and what is shown of them. -/
structure Logger where
  source : String
  filter : LogFilter
deriving DecidableEq, Repr

namespace Logger

/-- The variable that sets the filter. -/
def variableName : String := "RUST_LOG"

/-- The filter of an environment that does not set one. -/
def standard : String := "info"

def ofEnvironment (source : String) (env : Environment) : Logger :=
  let spec := ((env.find? fun v => decide (v.1 = variableName)).map (·.2)).getD standard
  ⟨source, .ofText spec⟩

def shows (l : Logger) (m : Message) : Bool := l.filter.shows l.source m

example : (ofEnvironment "a" []).shows ⟨.info, "b"⟩ = true := by decide +kernel
example : (ofEnvironment "a" [("RUST_LOG", "warn,a=info,ab=off")]).shows ⟨.info, "b"⟩ = true := by
  decide +kernel
example : (ofEnvironment "a" [("RUST_LOG", "info/c")]).shows ⟨.error, "b"⟩ = false := by
  decide +kernel

end Logger

end RingKeeper.Program

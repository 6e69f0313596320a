import KeyedImages.Log
import KeyedImages.Log.Pattern
import KeyedImages.Text.Split

/-! Which log records are shown. -/
namespace KeyedImages.Log

/-- Shows the records of the targets that begin with a name, or of all targets, up to a level. -/
structure Directive where
  name : Option (List Char)
  /-- The least urgent level that is shown, none where nothing is. -/
  level : Option Level
  deriving DecidableEq, Repr

structure Filter where
  directives : List Directive
  pattern : Option Pattern
  deriving DecidableEq, Repr

/-- Reads the name of a level, in upper or lower case; `off` is the level of nothing. -/
def Level.threshold? (cs : List Char) : Option (Option Level) :=
  match String.ofList (cs.map Char.toLower) with
  | "off" => some none
  | "error" => some (some error)
  | "warn" => some (some warn)
  | "info" => some (some info)
  | "debug" => some (some debug)
  | "trace" => some (some trace)
  | _ => none

/-- Whether a record of a level is shown up to a threshold. -/
def Level.isWithin (l : Level) (threshold : Option Level) : Bool :=
  threshold.any fun t => l.rank ≤ t.rank

namespace Directive

def covers (d : Directive) (target : String) : Bool :=
  d.name.all fun n => n.isPrefixOf target.toList

/-- The length of the name in bytes; that of no name is zero. -/
def size (d : Directive) : Nat := d.name.elim 0 fun n => (String.ofList n).utf8ByteSize

/-- Reads a directive: a level, a name, or both with an equals sign between them. -/
def ofChars? (cs : List Char) : Option Directive :=
  match Text.split '=' cs with
  | [word] =>
    match Level.threshold? word with
    | some level => some ⟨none, level⟩
    | none => some ⟨some word, some .trace⟩
  | [name, word] =>
    let word := Text.trim word
    if word.isEmpty then some ⟨some name, some .trace⟩
    else (Level.threshold? word).map (⟨some name, ·⟩)
  | _ => none

/-- Adds a directive, in the place of one with the same name. -/
def add (ds : List Directive) (d : Directive) : List Directive :=
  if ds.any (·.name = d.name) then ds.map fun e => if e.name = d.name then d else e else ds ++ [d]

end Directive

namespace Filter

/-- Reads a filter: directives with commas between them, perhaps a slash and a pattern. What cannot
be read is left out; with more than one slash nothing is read. Without directives errors are shown.
-/
def ofString (s : String) : Filter :=
  let (parts, pattern) := match Text.split '/' s.toList with
    | [parts] => (parts, none)
    | [parts, pattern] => (parts, Pattern.ofString? (String.ofList pattern))
    | _ => ([], none)
  let words := ((Text.split ',' parts).map Text.trim).filter (!·.isEmpty)
  let directives := (words.filterMap Directive.ofChars?).foldl Directive.add []
  ⟨if directives.isEmpty then [⟨none, some .error⟩] else directives, pattern⟩

/-- The directive for a target: of those that cover it the one with the longest name, and of these
the last. -/
def directive? (f : Filter) (target : String) : Option Directive :=
  (f.directives.filter (·.covers target)).foldl
    (fun best d => if best.all (·.size ≤ d.size) then some d else best) none

def shows (f : Filter) (r : Record) : Bool :=
  (f.directive? r.source.target).any (fun d => r.level.isWithin d.level) &&
    f.pattern.all (·.isFoundIn r.message)

end Filter

end KeyedImages.Log
